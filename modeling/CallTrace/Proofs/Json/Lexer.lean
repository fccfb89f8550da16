/-
# The tokens of a written value

Writing and lexing are inverse on values that JSON can hold without loss: their numbers
are whole and their strings hold text. A number ends where something else begins, so what
is said of a text in front of others holds only if these do not continue a number. In
written values a number is followed by a comma, a closing mark or nothing.
-/

import CallTrace.Json.Lexer
import CallTrace.Proofs.Json.Writer

namespace CallTrace

namespace Json

mutual

/-- The tokens of a value. -/
def tokens : Json → List JsonToken
  | .null => [.null]
  | .bool value => [.bool value]
  | .number value => [.number value]
  | .string value => [.string value]
  | .array items => .openBracket :: itemTokens true items ++ [.closeBracket]
  | .object members => .openBrace :: memberTokens true members ++ [.closeBrace]

/-- The tokens of the items of an array, a comma before each but the first. -/
def itemTokens (first : Bool) : List Json → List JsonToken
  | [] => []
  | item :: rest => (if first then [] else [.comma]) ++ tokens item ++ itemTokens false rest

/-- The tokens of the members of an object, a comma before each but the first. -/
def memberTokens (first : Bool) : List (Option String × Json) → List JsonToken
  | [] => []
  | (key, value) :: rest =>
    (if first then [] else [.comma]) ++ .string key :: .colon :: tokens value ++
      memberTokens false rest

end

/-- The tokens of a member. -/
def tokensOfMember (member : String × Json) : List JsonToken :=
  .string (some member.1) :: .colon :: member.2.tokens

theorem itemTokens_false (items : List Json) :
    itemTokens false items = items.flatMap (.comma :: ·.tokens) := by
  induction items with
  | nil => rw [itemTokens, List.flatMap_nil]
  | cons item items ih =>
      rw [itemTokens, ih, List.flatMap_cons]
      rfl

theorem tokens_array (first : Json) (others : List Json) :
    (array (first :: others)).tokens =
      .openBracket ::
        (first.tokens ++ (others.flatMap (.comma :: ·.tokens) ++ [.closeBracket])) := by
  rw [tokens, itemTokens, itemTokens_false, List.cons_append, List.append_assoc]
  rfl

theorem memberTokens_false (members : List (String × Json)) :
    memberTokens false (members.map fun member => (some member.1, member.2)) =
      members.flatMap (.comma :: tokensOfMember ·) := by
  induction members with
  | nil => rw [List.map_nil, memberTokens, List.flatMap_nil]
  | cons member members ih =>
      rw [List.map_cons, memberTokens, ih, List.flatMap_cons]
      rfl

theorem tokens_fields (first : String × Json) (others : List (String × Json)) :
    (fields (first :: others)).tokens =
      .openBrace ::
        (tokensOfMember first ++
          (others.flatMap (.comma :: tokensOfMember ·) ++ [.closeBrace])) := by
  rw [fields, tokens, List.map_cons, memberTokens, memberTokens_false, List.cons_append,
    List.append_assoc]
  rfl

end Json

namespace JsonToken

/-- The tokens of an undamaged text from a state on. -/
def lexText (state : LexState) (text : List Char) : Option (List JsonToken) :=
  lexFrom state (text.map some)

/-- A step that gives out tokens. -/
theorem lexText_cons {state next : LexState} {c : Char} {tokens : List JsonToken}
    (step : lexStep state (some c) = some (tokens, next)) (rest : List Char) :
    lexText state (c :: rest) = (lexText next rest).map (tokens ++ ·) := by
  rw [lexText, List.map_cons, lexFrom, step]
  change ((lexText next rest).bind fun more => some (tokens ++ more)) = _
  cases lexText next rest <;> rfl

/-- A step that gives out nothing yet. -/
theorem lexText_silent {state : LexState} (next : LexState) {c : Char}
    (step : lexStep state (some c) = some ([], next)) (rest : List Char) :
    lexText state (c :: rest) = lexText next rest := by
  exact (lexText_cons step rest).trans Option.map_id'

section String

/-- A character that stands for itself in a string. -/
theorem lexText_character {c : Char} (noQuote : c ≠ '"') (noEscape : c ≠ '\\')
    (noControl : ¬ c.toNat < 0x20) (done : List Piece) (rest : List Char) :
    lexText (.string done) (c :: rest) = lexText (.string (.character c :: done)) rest := by
  apply lexText_silent _ _ rest
  rw [lexStep, if_neg (by simpa using noQuote), if_neg (by simpa using noEscape),
    if_neg noControl]

/-- A character written by a letter. -/
theorem lexText_letter {letter c : Char} (meaning : escaped? letter = some c)
    (noNumber : letter ≠ 'u') (done : List Piece) (rest : List Char) :
    lexText (.string done) ('\\' :: letter :: rest) =
      lexText (.string (.character c :: done)) rest := by
  have step : lexStep (.escape done) (some letter) = some ([], .string (.character c :: done)) := by
    rw [lexStep, if_neg (by simpa using noNumber), meaning]
    rfl
  rw [lexText_silent (.escape done) rfl, lexText_silent _ step]

/-- A control character written by its number. -/
theorem lexText_control {c : Char} (control : c.toNat < 0x20) (done : List Piece)
    (rest : List Char) :
    lexText (.string done)
        ('\\' :: 'u' :: '0' :: '0' :: Hex.digit (c.toNat / 16) :: Hex.digit (c.toNat % 16) ::
          rest) =
      lexText (.string (.character c :: done)) rest := by
  have digit : ∀ n < 16, (Numeral.digitValue? 16 (Hex.digit n)).isNone = false := by decide
  have number : ∀ n < 0x20,
      Numeral.read 16 0x10000 ['0', '0', Hex.digit (n / 16), Hex.digit (n % 16)] = .ok n := by
    decide
  have character : ∀ n < 0x20, unitPiece n = .character (Char.ofNat n) := by decide
  have third : lexStep (.unit done ['0', '0']) (some (Hex.digit (c.toNat / 16))) =
      some ([], .unit done [Hex.digit (c.toNat / 16), '0', '0']) := by
    rw [lexStep, digit _ (by omega)]
    · rfl
    · simp
  have fourth : lexStep (.unit done [Hex.digit (c.toNat / 16), '0', '0'])
      (some (Hex.digit (c.toNat % 16))) = some ([], .string (.character c :: done)) := by
    rw [lexStep, digit _ (by omega)]
    simp only [number _ control, character _ control, Char.ofNat_toNat]
    rfl
  rw [lexText_silent (.escape done) rfl, lexText_silent (.unit done []) rfl,
    lexText_silent (.unit done ['0']) rfl,
    lexText_silent (.unit done ['0', '0']) rfl, lexText_silent _ third,
    lexText_silent _ fourth]

/-- A character is read from a string as it was, whatever form it was written in. -/
theorem lexText_escaped (c : Char) (done : List Piece) (rest : List Char) :
    lexText (.string done) (Json.escaped c ++ rest) =
      lexText (.string (.character c :: done)) rest := by
  rw [Json.escaped, Json.escape?]
  simp only [beq_iff_eq]
  split_ifs with quote backslash backspace tab newline feed carriage control
  · rw [quote]
    exact lexText_letter rfl (by decide) done rest
  · rw [backslash]
    exact lexText_letter rfl (by decide) done rest
  · rw [backspace]
    exact lexText_letter rfl (by decide) done rest
  · rw [tab]
    exact lexText_letter rfl (by decide) done rest
  · rw [newline]
    exact lexText_letter rfl (by decide) done rest
  · rw [feed]
    exact lexText_letter rfl (by decide) done rest
  · rw [carriage]
    exact lexText_letter rfl (by decide) done rest
  · exact lexText_control control done rest
  · exact lexText_character quote backslash control done rest

theorem assemble_map_character (text : List Char) :
    assemble (text.map .character) = some text := by
  induction text with
  | nil => rfl
  | cons c text ih =>
      rw [List.map_cons, assemble, ih]
      rfl

/-- The contents of a string up to its closing quote. -/
theorem lexText_contents (done text rest : List Char) :
    lexText (.string (done.map .character)) (text.flatMap Json.escaped ++ '"' :: rest) =
      (lexText .between rest).map (.string (some (String.ofList (done.reverse ++ text))) :: ·) := by
  induction text generalizing done with
  | nil =>
      have contents : assemble (done.map Piece.character).reverse = some done.reverse := by
        rw [← List.map_reverse, assemble_map_character]
      have step : lexStep (.string (done.map .character)) (some '"') =
          some ([.string (some (String.ofList done.reverse))], .between) := by
        rw [lexStep, contents]
        rfl
      rw [List.flatMap_nil, List.nil_append, List.append_nil]
      exact lexText_cons step rest
  | cons c text ih =>
      rw [List.flatMap_cons, List.append_assoc, lexText_escaped]
      refine (ih (c :: done)).trans ?_
      rw [List.reverse_cons, List.append_assoc]
      rfl

/-- A written string is one token. -/
theorem lexText_quoted (text rest : List Char) :
    lexText .between (Json.quoted text ++ rest) =
      (lexText .between rest).map (.string (some (String.ofList text)) :: ·) := by
  rw [Json.quoted, List.cons_append, List.append_assoc, lexText_silent (.string []) rfl]
  exact lexText_contents [] text rest

end String

section Number

/-- A text that does not continue a number in front of it. -/
def Closed (text : List Char) : Prop :=
  ∀ c rest, text = c :: rest → inNumber c = false

theorem inNumber_of_isDigit {c : Char} (digit : c.isDigit) : inNumber c = true := by
  rw [inNumber, digit]
  rfl

/-- A digit begins a number. -/
theorem lexBetween_digit {c : Char} (digit : c.isDigit) :
    lexBetween c = some ([], .number [c]) := by
  have others : ∀ d : Char, d.isDigit = false → (c == d) = false := by
    intro d noDigit
    rw [beq_eq_false_iff_ne]
    rintro rfl
    rw [digit] at noDigit
    exact absurd noDigit (by decide)
  rw [lexBetween]
  simp only [others ' ' rfl, others '\t' rfl, others '\n' rfl, others '\r' rfl, others '\x7b' rfl,
    others '\x7d' rfl, others '[' rfl, others ']' rfl, others ':' rfl, others ',' rfl,
    others '"' rfl, others 'n' rfl, others 't' rfl, others 'f' rfl, digit, Bool.or_false,
    Bool.true_or, Bool.false_eq_true, if_false, if_true]

/-- The digits of a number up to its end. -/
theorem lexText_digits {number : JsonNumber} {done digits : List Char}
    (all : ∀ c ∈ digits, c.isDigit) (read : JsonNumber.read? (done.reverse ++ digits) = some number)
    {rest : List Char} (closed : Closed rest) :
    lexText (.number done) (digits ++ rest) =
      (lexText .between rest).map (.number number :: ·) := by
  induction digits generalizing done with
  | nil =>
      rw [List.append_nil] at read
      rw [List.nil_append]
      cases rest with
      | nil =>
          change (JsonNumber.read? done.reverse).map _ = _
          rw [read]
          rfl
      | cons c rest =>
          -- The character that ends the number is a token of its own, or begins one.
          rw [lexText, lexText, List.map_cons, lexFrom, lexFrom, lexStep, lexStep,
            if_neg (by rw [closed c rest rfl]; decide), read]
          cases lexBetween c with
          | none => rfl
          | some result =>
              cases more : lexFrom result.2 (rest.map some) <;> simp [more]
  | cons c digits ih =>
      have step : lexStep (.number done) (some c) = some ([], .number (c :: done)) := by
        rw [lexStep, if_pos (inNumber_of_isDigit (all c List.mem_cons_self))]
      rw [List.cons_append, lexText_silent _ step]
      apply ih fun d member => all d (List.mem_cons_of_mem c member)
      rwa [List.reverse_cons, List.append_assoc]

/-- A written whole number is one token. -/
theorem lexText_decimal (n : Nat) {rest : List Char} (closed : Closed rest) :
    lexText .between (Numeral.decimal n ++ rest) =
      (lexText .between rest).map (.number (.ofNat n) :: ·) := by
  obtain ⟨first, digits, written⟩ := List.exists_cons_of_ne_nil (Numeral.decimal_ne_nil n)
  have all : ∀ c ∈ first :: digits, c.isDigit := by
    rw [← written]
    exact fun c => Numeral.isDigit_of_mem_decimal
  have step : lexStep .between (some first) = some ([], .number [first]) :=
    lexBetween_digit (all first List.mem_cons_self)
  rw [written, List.cons_append, lexText_silent _ step]
  apply lexText_digits (fun c member => all c (List.mem_cons_of_mem first member)) _ closed
  rw [← JsonNumber.read?_decimal, written]
  rfl

end Number

section Value

/-- A text has these tokens, whatever stands behind it. -/
def Lexes (text : List Char) (tokens : List JsonToken) : Prop :=
  ∀ rest, Closed rest →
    lexText .between (text ++ rest) = (lexText .between rest).map (tokens ++ ·)

/-- A text that ends a number in front of it with a character of its own. -/
def Ends (text : List Char) : Prop :=
  ∃ c rest, text = c :: rest ∧ inNumber c = false

theorem Ends.closed {text : List Char} (ends : Ends text) (rest : List Char) :
    Closed (text ++ rest) := by
  obtain ⟨c, more, rfl, outside⟩ := ends
  intro d others shape
  rw [← (List.cons.inj shape).1]
  exact outside

variable {first second : List Char} {tokens others : List JsonToken}

theorem Lexes.append (front : Lexes first tokens) (back : Lexes second others)
    (ends : Ends second) : Lexes (first ++ second) (tokens ++ others) := by
  intro rest closed
  rw [List.append_assoc, front _ (ends.closed rest), back rest closed, Option.map_map]
  congr 1
  funext more
  exact (List.append_assoc tokens others more).symm

/-- A mark is a token of its own, whatever stands behind it. -/
theorem Lexes.cons {c : Char} {token : JsonToken}
    (mark : lexBetween c = some ([token], .between)) (back : Lexes second others) :
    Lexes (c :: second) (token :: others) := by
  intro rest closed
  have step : lexStep .between (some c) = some ([token], .between) := mark
  rw [List.cons_append, lexText_cons step, back rest closed, Option.map_map]
  rfl

theorem lexes_nil : Lexes [] [] := by
  intro rest _
  exact Option.map_id'.symm

theorem lexes_quoted (text : String) :
    Lexes (Json.quoted text.toList) [.string (some text)] := by
  intro rest _
  rw [lexText_quoted, String.ofList_toList]
  rfl

theorem lexes_decimal (n : Nat) : Lexes (Numeral.decimal n) [.number (.ofNat n)] :=
  fun _ => lexText_decimal n

/-- The characters that are missing from a word, up to its last. -/
theorem lexText_word (missing : List Char) (last : Char) (token : JsonToken) (rest : List Char) :
    lexText (.word (missing ++ [last]) token) (missing ++ last :: rest) =
      (lexText .between rest).map (token :: ·) := by
  induction missing with
  | nil =>
      have step : lexStep (.word [last] token) (some last) = some ([token], .between) := by
        rw [lexStep, if_pos (beq_self_eq_true last)]
      exact lexText_cons step rest
  | cons next missing ih =>
      have step : lexStep (.word (next :: (missing ++ [last])) token) (some next) =
          some ([], .word (missing ++ [last]) token) := by
        rw [lexStep, if_pos (beq_self_eq_true next)]
        simp
      exact (lexText_silent _ step _).trans ih

/-- A literal word is a token, whatever stands behind it. -/
theorem lexes_word {first last : Char} (missing : List Char) {token : JsonToken}
    (begins : lexBetween first = some ([], .word (missing ++ [last]) token)) :
    Lexes (first :: (missing ++ [last])) [token] := by
  intro rest _
  have step : lexStep .between (some first) = some ([], .word (missing ++ [last]) token) := begins
  rw [List.cons_append, List.append_assoc, lexText_silent _ step]
  exact lexText_word missing last token rest

/-- Further parts, each behind a comma, and the closing mark. -/
theorem lexes_parts {α : Type} {text : α → List Char} {tokens : α → List JsonToken}
    {parts : List α} (each : ∀ part ∈ parts, Lexes (text part) (tokens part)) {c : Char}
    {token : JsonToken} (mark : lexBetween c = some ([token], .between))
    (outside : inNumber c = false) :
    Lexes (parts.flatMap (',' :: text ·) ++ [c]) (parts.flatMap (.comma :: tokens ·) ++ [token]) ∧
      Ends (parts.flatMap (',' :: text ·) ++ [c]) := by
  induction parts with
  | nil => exact ⟨Lexes.cons mark lexes_nil, c, [], rfl, outside⟩
  | cons part parts ih =>
      obtain ⟨rest, ends⟩ := ih fun other member => each other (List.mem_cons_of_mem part member)
      have first : Lexes (text part) (tokens part) := each part List.mem_cons_self
      rw [List.flatMap_cons, List.flatMap_cons, List.append_assoc, List.append_assoc]
      exact ⟨Lexes.cons rfl (first.append rest ends), ',', _, rfl, rfl⟩

end Value

end JsonToken

namespace Json

open JsonToken

theorem lexes_writeMember {member : String × Json}
    (value : Lexes member.2.write member.2.tokens) :
    Lexes (writeMember member) (tokensOfMember member) :=
  (lexes_quoted member.1).append (Lexes.cons rfl value) ⟨':', _, rfl, rfl⟩

/-- A written value has the tokens of the value. -/
theorem Plain.lexes {value : Json} (plain : Plain value) : Lexes value.write value.tokens := by
  induction plain with
  | null => exact lexes_word ['u', 'l'] rfl
  | bool value =>
      cases value with
      | false => exact lexes_word ['a', 'l', 's'] rfl
      | true => exact lexes_word ['r', 'u'] rfl
  | nat n =>
      rw [write_nat]
      exact lexes_decimal n
  | text value =>
      rw [write_text]
      exact lexes_quoted value
  | @array items each ih =>
      cases items with
      | nil => exact Lexes.cons rfl (Lexes.cons rfl lexes_nil)
      | cons first others =>
          obtain ⟨rest, ends⟩ := lexes_parts (c := ']')
            (fun item member => ih item (List.mem_cons_of_mem first member)) rfl rfl
          rw [write_array, tokens_array]
          exact Lexes.cons rfl ((ih first List.mem_cons_self).append rest ends)
  | @fields members each ih =>
      cases members with
      | nil => exact Lexes.cons rfl (Lexes.cons rfl lexes_nil)
      | cons first others =>
          obtain ⟨rest, ends⟩ := lexes_parts (c := '\x7d')
            (fun member among => lexes_writeMember (ih member (List.mem_cons_of_mem first among)))
            rfl rfl
          rw [write_fields, tokens_fields]
          exact Lexes.cons rfl
            ((lexes_writeMember (ih first List.mem_cons_self)).append rest ends)

/-- The tokens of a written value are those of the value. -/
theorem Plain.lex_write {value : Json} (plain : Plain value) :
    JsonToken.lex (value.write.map some) = some value.tokens := by
  have closed : Closed [] := fun _ _ shape => absurd shape (by simp)
  have whole := plain.lexes [] closed
  rw [List.append_nil] at whole
  exact whole.trans (congrArg some (List.append_nil _))

end Json

end CallTrace
