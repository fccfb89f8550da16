/-
# The beginning of a written object is no value

A text is read character by character, by a lexer in front of a reader. Once the opening brace
of an object has been read, something is open until its closing brace has come, so the
beginning of an object is no value. It is none either if another object is written right
behind it: the second object either stands where no object may stand, or inside the first one,
which then stays open, or it is torn apart by a string of the first one that has not ended.
-/

import CallTrace.Proofs.Json.Reader

namespace CallTrace.Json

open JsonToken

namespace Reader

/-- Something is open, or all is complete: a value has begun. -/
def Begun (reader : Reader) : Prop :=
  reader.opened ≠ [] ∨ ∃ result, reader.awaited = .nothing result

variable {reader next : Reader} {token : JsonToken}

theorem begun_of_deliver {value : Json} {opened : List Container}
    (delivered : deliver value opened = some next) : next.Begun := by
  cases opened with
  | nil =>
      rw [← Option.some_inj.mp delivered]
      exact .inr ⟨value, rfl⟩
  | cons container outer =>
      cases container with
      | items done =>
          rw [← Option.some_inj.mp delivered]
          exact .inl (List.cons_ne_nil _ _)
      | members done => cases delivered
      | member done key =>
          rw [← Option.some_inj.mp delivered]
          exact .inl (List.cons_ne_nil _ _)

theorem begun_of_value {opened : List Container} (taken : value opened token = some next) :
    next.Begun := by
  cases token with
  | openBrace =>
      rw [← Option.some_inj.mp taken]
      exact .inl (List.cons_ne_nil _ _)
  | openBracket =>
      rw [← Option.some_inj.mp taken]
      exact .inl (List.cons_ne_nil _ _)
  | null => exact begun_of_deliver taken
  | bool value => exact begun_of_deliver taken
  | number value => exact begun_of_deliver taken
  | string value => exact begun_of_deliver taken
  | closeBrace => cases taken
  | closeBracket => cases taken
  | colon => cases taken
  | comma => cases taken

theorem begun_of_key {opened : List Container} (taken : key opened token = some next) :
    next.Begun := by
  rw [key.eq_def] at taken
  split at taken
  · rw [← Option.some_inj.mp taken]
    exact .inl (List.cons_ne_nil _ _)
  · cases taken

theorem begun_of_close {opened : List Container} (taken : close opened token = some next) :
    next.Begun := by
  rw [close.eq_def] at taken
  split at taken
  · exact begun_of_deliver taken
  · exact begun_of_deliver taken
  · cases taken

/-- What has begun goes on or is complete. -/
theorem Begun.step (begun : reader.Begun) (taken : reader.step token = some next) :
    next.Begun := by
  obtain ⟨opened, awaited⟩ := reader
  cases awaited with
  | value => exact begun_of_value taken
  | firstItem =>
      simp only [Reader.step] at taken
      split at taken
      · exact begun_of_close taken
      · exact begun_of_value taken
  | firstKey =>
      simp only [Reader.step] at taken
      split at taken
      · exact begun_of_close taken
      · exact begun_of_key taken
  | key => exact begun_of_key taken
  | colon =>
      have open? : opened ≠ [] := begun.resolve_right (by simp)
      simp only [Reader.step] at taken
      split at taken
      · rw [← Option.some_inj.mp taken]
        exact .inl open?
      · cases taken
  | separator =>
      have open? : opened ≠ [] := begun.resolve_right (by simp)
      simp only [Reader.step] at taken
      split at taken
      · split at taken
        · rw [← Option.some_inj.mp taken]
          exact .inl open?
        · rw [← Option.some_inj.mp taken]
          exact .inl open?
        · cases taken
      · exact begun_of_close taken
  | nothing result => cases taken

theorem Begun.run {tokens : List JsonToken} (begun : reader.Begun)
    (taken : reader.run tokens = some next) : next.Begun := by
  induction tokens generalizing reader with
  | nil => rwa [← Option.some_inj.mp taken]
  | cons token tokens ih =>
      rw [Reader.run] at taken
      obtain ⟨after, first, rest⟩ := Option.bind_eq_some_iff.mp taken
      exact ih (begun.step first) rest

/-- A value that is delivered inside a container does not complete anything. -/
theorem awaited_of_deliver {value : Json} {opened : List Container} (inside : opened ≠ [])
    (delivered : deliver value opened = some next) : next.awaited = .separator := by
  cases opened with
  | nil => exact absurd rfl inside
  | cons container outer =>
      cases container with
      | items done => rw [← Option.some_inj.mp delivered]
      | members done => cases delivered
      | member done key => rw [← Option.some_inj.mp delivered]

/-- Only a string is a key. -/
theorem key_eq_none {opened : List Container} (noString : ∀ name, token ≠ .string name) :
    key opened token = none := by
  rw [key.eq_def]
  split
  next name => exact absurd rfl (noString name)
  next => rfl

/-- Only a closing mark closes a container. -/
theorem close_eq_none {opened : List Container} (noBracket : token ≠ .closeBracket)
    (noBrace : token ≠ .closeBrace) : close opened token = none := by
  rw [close.eq_def]
  split
  next => exact absurd rfl noBracket
  next => exact absurd rfl noBrace
  next => rfl

/-- A number inside a container is followed by a comma or the end of the container. -/
theorem Begun.awaited_number (begun : reader.Begun) {number : JsonNumber}
    (taken : reader.step (.number number) = some next) : next.awaited = .separator := by
  obtain ⟨opened, awaited⟩ := reader
  have noKey : key opened (.number number) = none := key_eq_none fun _ => by simp
  have noClose : close opened (.number number) = none := close_eq_none (by simp) (by simp)
  cases awaited with
  | value => exact awaited_of_deliver (begun.resolve_right (by simp)) taken
  | firstItem => exact awaited_of_deliver (begun.resolve_right (by simp)) taken
  | firstKey => exact absurd (noKey.symm.trans taken) (by simp)
  | key => exact absurd (noKey.symm.trans taken) (by simp)
  | colon => cases taken
  | separator => exact absurd (noClose.symm.trans taken) (by simp)
  | nothing result => cases taken

/-- Behind a complete value no token is taken in. -/
theorem of_run_complete {result : Json} (complete : reader.awaited = .nothing result)
    {tokens : List JsonToken} (taken : reader.run tokens = some next) :
    tokens = [] ∧ next = reader := by
  cases tokens with
  | nil => exact ⟨rfl, (Option.some_inj.mp taken).symm⟩
  | cons token tokens =>
      rw [run, step, complete] at taken
      cases taken

/-- Where an object may not begin. -/
theorem step_openBrace_eq_none (noValue : reader.awaited ≠ .value)
    (noItem : reader.awaited ≠ .firstItem) : reader.step .openBrace = none := by
  obtain ⟨opened, awaited⟩ := reader
  cases awaited with
  | value => exact absurd rfl noValue
  | firstItem => exact absurd rfl noItem
  | firstKey => exact key_eq_none fun _ => by simp
  | key => exact key_eq_none fun _ => by simp
  | colon => rfl
  | separator => exact close_eq_none (by simp) (by simp)
  | nothing result => rfl

/-- The value that is complete, if one is. -/
def result? (reader : Reader) : Option Json :=
  match reader.awaited with
  | .nothing result => some result
  | _ => none

end Reader

/-- How far a text has been read: a token may have begun, and behind the tokens before it a
value. -/
structure Reading where
  lexer : LexState
  reader : Reader

namespace Reading

def start : Reading :=
  ⟨.between, .start⟩

/-- Reads one character. -/
def step (reading : Reading) (c : Char) : Option Reading := do
  let (tokens, lexer) ← lexStep reading.lexer (some c)
  let reader ← reading.reader.run tokens
  return ⟨lexer, reader⟩

/-- Reads characters in order. -/
def run (reading : Reading) : List Char → Option Reading
  | [] => some reading
  | c :: rest => do (← reading.step c).run rest

/-- The value that is complete when the text ends. -/
def finish (reading : Reading) : Option Json := do
  let tokens ← lexEnd reading.lexer
  let reader ← reading.reader.run tokens
  reader.result?

end Reading

theorem Reader.run_append (reader : Reader) (first second : List JsonToken) :
    reader.run (first ++ second) = (reader.run first).bind (·.run second) := by
  induction first generalizing reader with
  | nil => rfl
  | cons token first ih =>
      rw [List.cons_append, Reader.run, Reader.run, Option.bind_eq_bind, Option.bind_assoc]
      exact congrArg _ (funext fun next => ih next)

namespace Reading

theorem run_append (reading : Reading) (first second : List Char) :
    reading.run (first ++ second) = (reading.run first).bind (·.run second) := by
  induction first generalizing reading with
  | nil => rfl
  | cons c first ih =>
      rw [List.cons_append, run, run, Option.bind_eq_bind, Option.bind_assoc]
      exact congrArg _ (funext fun next => ih next)

/-- To read character by character is to read all tokens of the text. -/
theorem run_bind_finish (reading : Reading) (text : List Char) :
    (reading.run text).bind finish =
      (lexText reading.lexer text).bind fun tokens =>
        (reading.reader.run tokens).bind Reader.result? := by
  induction text generalizing reading with
  | nil => rfl
  | cons c text ih =>
      rw [run, step, lexText, List.map_cons, lexFrom]
      cases lexStep reading.lexer (some c) with
      | none => rfl
      | some result =>
          obtain ⟨tokens, lexer⟩ := result
          have behind (more : List JsonToken) :
              (reading.reader.run (tokens ++ more)).bind Reader.result? =
                (reading.reader.run tokens).bind fun reader =>
                  (reader.run more).bind Reader.result? := by
            rw [Reader.run_append, Option.bind_assoc]
          simp only [Option.bind_eq_bind, Option.pure_def, Option.bind_some, Option.bind_assoc,
            behind]
          cases reading.reader.run tokens with
          | none => simp
          | some reader => exact ih ⟨lexer, reader⟩

/-- The value that a text holds is the one that is complete at its end. -/
theorem ofText?_eq (text : List Char) : ofText? text = (start.run text).bind finish := by
  rw [run_bind_finish]
  rfl

end Reading

section Word

/-- No word that has begun goes on with an opening brace. -/
def Worded : LexState → Prop
  | .word missing _ => '\x7b' ∉ missing
  | _ => True

variable {state next : LexState} {c : Char} {tokens : List JsonToken}

theorem eq_or_of_ite {α : Type} {condition : Prop} [Decidable condition] {first found : α}
    {other : Option α} (taken : (if condition then some first else other) = some found) :
    found = first ∨ other = some found := by
  by_cases holds : condition
  · rw [if_pos holds] at taken
    exact .inl (Option.some_inj.mp taken).symm
  · rw [if_neg holds] at taken
    exact .inr taken

theorem worded_of_lexBetween (taken : lexBetween c = some (tokens, next)) : Worded next := by
  rw [lexBetween] at taken
  -- One case for each kind of character; three of them begin a word.
  repeat
    rcases eq_or_of_ite taken with same | taken
    · rw [(Prod.mk.inj same).2]
      simp [Worded]
  cases taken

theorem Worded.step (worded : Worded state) (taken : lexStep state (some c) = some (tokens, next)) :
    Worded next := by
  cases state with
  | between => exact worded_of_lexBetween taken
  | word missing token =>
      match missing with
      | [] => cases taken
      | [last] =>
          rw [lexStep] at taken
          split_ifs at taken
          obtain ⟨-, rfl⟩ := Prod.mk.inj (Option.some_inj.mp taken)
          trivial
      | first :: second :: missing =>
          rw [lexStep] at taken
          · split_ifs at taken
            obtain ⟨-, rfl⟩ := Prod.mk.inj (Option.some_inj.mp taken)
            exact fun member => worded (List.mem_cons_of_mem first member)
          · simp
  | number done =>
      rw [lexStep] at taken
      split_ifs at taken
      · obtain ⟨-, rfl⟩ := Prod.mk.inj (Option.some_inj.mp taken)
        trivial
      · obtain ⟨number, -, rest⟩ := Option.bind_eq_some_iff.mp taken
        obtain ⟨⟨others, after⟩, between, same⟩ := Option.bind_eq_some_iff.mp rest
        obtain ⟨-, rfl⟩ := Prod.mk.inj (Option.some_inj.mp same)
        exact worded_of_lexBetween between
  | string done =>
      rw [lexStep] at taken
      split_ifs at taken
      all_goals
        obtain ⟨-, rfl⟩ := Prod.mk.inj (Option.some_inj.mp taken)
        trivial
  | escape done =>
      rw [lexStep] at taken
      split_ifs at taken
      · obtain ⟨-, rfl⟩ := Prod.mk.inj (Option.some_inj.mp taken)
        trivial
      · obtain ⟨letter, -, same⟩ := Option.map_eq_some_iff.mp taken
        obtain ⟨-, rfl⟩ := Prod.mk.inj same
        trivial
  | unit done digits =>
      rw [lexStep.eq_def] at taken
      simp only at taken
      split_ifs at taken
      split at taken
      · split at taken
        · obtain ⟨-, rfl⟩ := Prod.mk.inj (Option.some_inj.mp taken)
          trivial
        · cases taken
      · obtain ⟨-, rfl⟩ := Prod.mk.inj (Option.some_inj.mp taken)
        trivial

/-- A character that no token goes on with stops the reading of the tokens. -/
theorem lexText_eq_none {text : List Char} (lost : lexStep state (some c) = none) :
    lexText state (c :: text) = none := by
  rw [lexText, List.map_cons, lexFrom, lost]
  rfl

/-- A word that has begun does not go on with an opening brace. -/
theorem Worded.lexStep_eq_none {missing : List Char} {token : JsonToken}
    (worded : Worded (.word missing token)) :
    lexStep (.word missing token) (some '\x7b') = none := by
  match missing with
  | [] => rfl
  | [last] =>
      have different : '\x7b' ≠ last := fun same => worded (List.mem_singleton.mpr same)
      rw [lexStep, if_neg (by simpa using different)]
  | first :: second :: missing =>
      have different : '\x7b' ≠ first := fun same => worded (same ▸ List.mem_cons_self)
      rw [lexStep, if_neg (by simpa using different)]
      simp

end Word

namespace Reading

/-- A value has begun, and is not over by a word that a brace belongs to. -/
structure Begun (reading : Reading) : Prop where
  reader : reading.reader.Begun
  lexer : Worded reading.lexer

variable {reading next : Reading}

theorem step_eq_some_iff {c : Char} :
    reading.step c = some next ↔
      ∃ tokens, lexStep reading.lexer (some c) = some (tokens, next.lexer) ∧
        reading.reader.run tokens = some next.reader := by
  constructor
  · intro taken
    obtain ⟨⟨tokens, lexer⟩, given, rest⟩ := Option.bind_eq_some_iff.mp taken
    obtain ⟨reader, run, same⟩ := Option.bind_eq_some_iff.mp rest
    obtain rfl := Option.some_inj.mp same
    exact ⟨tokens, given, run⟩
  · rintro ⟨tokens, given, run⟩
    rw [step, given]
    simp only [Option.bind_eq_bind, Option.bind_some, run]
    rfl

theorem Begun.step (begun : reading.Begun) {c : Char} (taken : reading.step c = some next) :
    next.Begun := by
  obtain ⟨tokens, given, run⟩ := step_eq_some_iff.mp taken
  exact ⟨begun.reader.run run, begun.lexer.step given⟩

theorem Begun.run {text : List Char} (begun : reading.Begun)
    (taken : reading.run text = some next) : next.Begun := by
  induction text generalizing reading with
  | nil => rwa [← Option.some_inj.mp taken]
  | cons c text ih =>
      obtain ⟨after, first, rest⟩ := Option.bind_eq_some_iff.mp taken
      exact ih (begun.step first) rest

/-- An object has begun behind its opening brace. -/
theorem begun_of_brace {text : List Char} (taken : start.run ('\x7b' :: text) = some next) :
    next.Begun := by
  have begun : Begun ⟨.between, ⟨[.members []], .firstKey⟩⟩ :=
    ⟨.inl (List.cons_ne_nil _ _), trivial⟩
  exact begun.run taken

section Complete

/-- A closing brace that leaves a lexer between two tokens completes one. -/
theorem ne_nil_of_closeBrace {state : LexState} {tokens : List JsonToken}
    (taken : lexStep state (some '\x7d') = some (tokens, .between)) : tokens ≠ [] := by
  rintro rfl
  cases state with
  | between => cases taken
  | word missing token =>
      match missing with
      | [] => cases taken
      | [last] =>
          rw [lexStep] at taken
          split_ifs at taken
          cases taken
      | first :: second :: missing =>
          rw [lexStep] at taken
          · split_ifs at taken
            cases taken
          · simp
  | number done =>
      rw [lexStep, if_neg (by decide)] at taken
      obtain ⟨number, -, rest⟩ := Option.bind_eq_some_iff.mp taken
      obtain ⟨⟨others, after⟩, -, same⟩ := Option.bind_eq_some_iff.mp rest
      cases same
  | string done => cases taken
  | escape done => cases taken
  | unit done digits =>
      rw [lexStep.eq_def] at taken
      cases taken

/-- A lexer that has nothing left to give at the end of a text is between two tokens. -/
theorem eq_between_of_lexEnd {state : LexState} (ended : lexEnd state = some []) :
    state = .between := by
  cases state with
  | between => rfl
  | number done =>
      obtain ⟨number, -, same⟩ := Option.map_eq_some_iff.mp ended
      cases same
  | word missing token => cases ended
  | string done => cases ended
  | escape done => cases ended
  | unit done digits => cases ended

/-- Behind a complete value nothing but white space is read, so there is no closing brace. -/
theorem finish_of_closeBrace {result : Json} (complete : reading.reader.awaited = .nothing result)
    {text : List Char} (taken : reading.run (text ++ ['\x7d']) = some next) :
    next.finish = none := by
  induction text generalizing reading with
  | nil =>
      obtain ⟨after, first, same⟩ := Option.bind_eq_some_iff.mp taken
      obtain rfl := Option.some_inj.mp same
      obtain ⟨tokens, given, run⟩ := step_eq_some_iff.mp first
      obtain ⟨rfl, unchanged⟩ := Reader.of_run_complete complete run
      rw [finish, Option.bind_eq_bind, Option.bind_eq_none_iff]
      intro tokens ended
      cases more : after.reader.run tokens with
      | none => rfl
      | some reader =>
          rw [unchanged] at more
          obtain ⟨rfl, -⟩ := Reader.of_run_complete complete more
          rw [eq_between_of_lexEnd ended] at given
          exact absurd rfl (ne_nil_of_closeBrace given)
  | cons c text ih =>
      obtain ⟨after, first, rest⟩ := Option.bind_eq_some_iff.mp taken
      obtain ⟨tokens, -, run⟩ := step_eq_some_iff.mp first
      obtain ⟨-, unchanged⟩ := Reader.of_run_complete complete run
      exact ih (unchanged ▸ complete) rest

end Complete

/-- While something is open, a text that ends is not one value. -/
theorem Begun.finish_eq_none (begun : reading.Begun) {text : List Char}
    (taken : reading.run (text ++ ['\x7d']) = some next) (whole : next.finish ≠ none) :
    reading.finish = none := by
  rw [finish]
  obtain ⟨lexer, reader⟩ := reading
  cases lexer with
  | between =>
      -- Nothing is left to be given, so the value was complete before the text ended.
      change reader.result? = none
      rw [Reader.result?]
      split
      next result complete => exact absurd (finish_of_closeBrace complete taken) whole
      next => rfl
  | number done =>
      cases read : JsonNumber.read? done.reverse with
      | none => rw [lexEnd, read]; rfl
      | some number =>
          rw [lexEnd, read]
          change (reader.run [.number number]).bind Reader.result? = none
          rw [Reader.run]
          cases stepped : reader.step (.number number) with
          | none => rfl
          | some after =>
              change after.result? = none
              rw [Reader.result?, begun.reader.awaited_number stepped]
  | word missing token => rfl
  | string done => rfl
  | escape done => rfl
  | unit done digits => rfl

/-- An object that is taken in while something is open leaves it open. -/
theorem run_object_bind_result? {reader : Reader} (begun : reader.Begun) {object : Json}
    (plain : Plain object) {rest : List JsonToken} (brace : object.tokens = .openBrace :: rest) :
    (reader.run object.tokens).bind Reader.result? = none := by
  obtain ⟨opened, awaited⟩ := reader
  have inside (noEnd : ∀ result, awaited ≠ .nothing result) : opened ≠ [] :=
    begun.resolve_right fun ⟨result, same⟩ => noEnd result same
  have delivered (noEnd : ∀ result, awaited ≠ .nothing result) :
      ((Reader.deliver object opened).bind (·.run [])).bind Reader.result? = none := by
    cases taken : Reader.deliver object opened with
    | none => rfl
    | some after =>
        change after.result? = none
        rw [Reader.result?, Reader.awaited_of_deliver (inside noEnd) taken]
  have refused (noValue : awaited ≠ .value) (noItem : awaited ≠ .firstItem) :
      (Reader.run ⟨opened, awaited⟩ object.tokens).bind Reader.result? = none := by
    rw [brace, Reader.run, Reader.step_openBrace_eq_none noValue noItem]
    rfl
  have takes := Reader.takes_of_plain plain
  cases awaited with
  | value =>
      have taken := takes opened []
      rw [List.append_nil] at taken
      rw [taken]
      exact delivered fun _ => by simp
  | firstItem =>
      have taken := takes.firstItem opened []
      rw [List.append_nil] at taken
      rw [taken]
      exact delivered fun _ => by simp
  | firstKey => exact refused (by simp) (by simp)
  | key => exact refused (by simp) (by simp)
  | colon => exact refused (by simp) (by simp)
  | separator => exact refused (by simp) (by simp)
  | nothing result => exact refused (by simp) (by simp)

/-- Behind a number of something that is open no object may stand. -/
theorem run_number_openBrace_eq_none {reader : Reader} (begun : reader.Begun)
    (number : JsonNumber) (rest : List JsonToken) :
    reader.run (.number number :: .openBrace :: rest) = none := by
  rw [Reader.run]
  cases stepped : reader.step (.number number) with
  | none => rfl
  | some after =>
      have separator := begun.awaited_number stepped
      have stops : after.step .openBrace = none :=
        Reader.step_openBrace_eq_none (by simp [separator]) (by simp [separator])
      change after.run (.openBrace :: rest) = none
      rw [Reader.run, stops]
      rfl

/-- A text that goes on with a complete object, while something is open, is not one value. -/
theorem Begun.run_object_bind_finish (begun : reading.Begun) {object : Json}
    (plain : Plain object) {c : Char} {text : List Char}
    (written : object.write = '\x7b' :: '"' :: c :: text) (odd : lexBetween c = none) :
    (reading.run object.write).bind finish = none := by
  obtain ⟨lexer, reader⟩ := reading
  have lexed : lexText .between object.write = some object.tokens := plain.lex_write
  obtain ⟨rest, brace⟩ : ∃ rest, object.tokens = .openBrace :: rest := by
    rw [written, lexText_cons rfl] at lexed
    obtain ⟨rest, -, same⟩ := Option.map_eq_some_iff.mp lexed
    exact ⟨rest, same.symm⟩
  rw [run_bind_finish]
  cases lexer with
  | between =>
      -- The object is taken in as a value of what is open, or may not stand here.
      change (lexText .between object.write).bind _ = none
      rw [lexed]
      exact run_object_bind_result? begun.reader plain brace
  | number done =>
      change (lexText (.number done) object.write).bind _ = none
      cases read : JsonNumber.read? done.reverse with
      | none =>
          have lost : lexStep (.number done) (some '\x7b') = none := by
            rw [lexStep, if_neg (by decide), read]
            rfl
          rw [written, lexText_eq_none lost]
          rfl
      | some number =>
          have closed : Closed object.write := by
            intro d others same
            rw [written] at same
            rw [← (List.cons.inj same).1]
            decide
          have whole : lexText (.number done) ([] ++ object.write) =
              (lexText .between object.write).map (.number number :: ·) :=
            lexText_digits (List.forall_mem_nil _) (by rwa [List.append_nil]) closed
          rw [List.nil_append] at whole
          rw [whole, lexed]
          change (reader.run (.number number :: object.tokens)).bind Reader.result? = none
          rw [brace, run_number_openBrace_eq_none begun.reader]
          rfl
  | word missing token =>
      have lost : lexStep (.word missing token) (some '\x7b') = none :=
        begun.lexer.lexStep_eq_none
      change (lexText (.word missing token) object.write).bind _ = none
      rw [written, lexText_eq_none lost]
      rfl
  | string done =>
      -- The first quote of the object ends the string, and what follows begins no token.
      have quoted : lexStep (.string (.character '\x7b' :: done)) (some '"') =
          some ([.string ((assemble (Piece.character '\x7b' :: done).reverse).map String.ofList)],
            .between) := rfl
      have lost : lexText .between (c :: text) = none :=
        lexText_eq_none (by rw [lexStep, odd])
      change (lexText (.string done) object.write).bind _ = none
      rw [written, lexText_silent (.string (.character '\x7b' :: done)) rfl, lexText_cons quoted,
        lost]
      rfl
  | escape done =>
      rw [written]
      rfl
  | unit done digits =>
      rw [written]
      rfl

end Reading

section Object

variable {object : Json} {inside front back : List Char}

/-- What has been read of a written object, and what is to come. -/
theorem exists_reading (plain : Plain object) (written : object.write = '\x7b' :: inside)
    (parts : front ++ back = object.write) (something : front ≠ []) :
    ∃ reading next, Reading.start.run front = some reading ∧ reading.Begun ∧
      reading.run back = some next ∧ next.finish = some object := by
  have whole := plain.ofText?_write
  rw [Reading.ofText?_eq, ← parts, Reading.run_append] at whole
  obtain ⟨next, ran, finished⟩ := Option.bind_eq_some_iff.mp whole
  obtain ⟨reading, first, rest⟩ := Option.bind_eq_some_iff.mp ran
  refine ⟨reading, next, first, ?_, rest, finished⟩
  obtain ⟨c, more, rfl⟩ := List.exists_cons_of_ne_nil something
  rw [written] at parts
  rw [(List.cons.inj parts).1] at first
  exact Reading.begun_of_brace first

/-- The beginning of a written object is no value. -/
theorem ofText?_of_prefix (plain : Plain object)
    (written : object.write = '\x7b' :: (inside ++ ['\x7d']))
    (parts : front ++ back = object.write) (something : front ≠ []) (lacking : back ≠ []) :
    ofText? front = none := by
  obtain ⟨reading, next, first, begun, rest, finished⟩ :=
    exists_reading plain written parts something
  obtain ⟨more, last, rfl⟩ := (List.eq_nil_or_concat' back).resolve_left lacking
  have brace : last = '\x7d' := by
    have ends := congrArg List.getLast? parts
    rw [written, ← List.cons_append, ← List.append_assoc, List.getLast?_concat,
      List.getLast?_concat] at ends
    exact Option.some_inj.mp ends
  rw [brace] at rest
  rw [Reading.ofText?_eq, first]
  exact begun.finish_eq_none rest (by simp [finished])

/-- The beginning of a written object, or all of it, is no value with another one behind it. -/
theorem ofText?_of_prefix_append (plain : Plain object) (written : object.write = '\x7b' :: inside)
    (parts : front ++ back = object.write) (something : front ≠ []) {other : Json}
    (plainToo : Plain other) {c : Char} {text : List Char}
    (writtenToo : other.write = '\x7b' :: '"' :: c :: text) (odd : lexBetween c = none) :
    ofText? (front ++ other.write) = none := by
  obtain ⟨reading, -, first, begun, -, -⟩ := exists_reading plain written parts something
  rw [Reading.ofText?_eq, Reading.run_append, first]
  exact begun.run_object_bind_finish plainToo writtenToo odd

end Object

end CallTrace.Json
