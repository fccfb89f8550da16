/-
# What the columns of a transfer row tell

The parties and the value of a row are texts of any content, and a row is asked about as it
stands. A party column names an account if it has the digits of an address or of a topic,
where the first digit may be missing, and a value column denotes a number if it has digits
only. Columns with a sign denote numbers as well: the reader of numbers takes a plus sign in
front of the digits, and since zeros are dropped before it reads, the sign may stand behind
zeros.
-/

import CallTrace.Proofs.Bytes.Decode
import CallTrace.Proofs.Text.Split
import CallTrace.Query

namespace CallTrace

namespace Query

/-- Whether a party column names an account: its digits, behind the customary mark or without
it, are those of twenty or of thirty-two bytes, and the last twenty bytes of their number are
the account. -/
def Names (column : List Char) (account : Address) : Prop :=
  ∃ digits number, (column = digits ∨ column = '0' :: 'x' :: digits) ∧
    digits.length ∈ [39, 40, 63, 64] ∧ Numeral.value? 16 digits = some number ∧
    bigEndian account.toList = number % 256 ^ 20

/-- Whether a value column is the numeral of a number: it has digits only. Without any digit it
is the numeral of zero. -/
def IsNumeral (column : List Char) (number : Nat) : Prop :=
  Numeral.value? 16 column = some number

instance (column : List Char) (number : Nat) : Decidable (IsNumeral column number) :=
  inferInstanceAs (Decidable (Numeral.value? 16 column = some number))

/-- Whether a value column denotes a number: it is a numeral, or there is a plus sign in front
of a numeral and nothing but zeros in front of the sign. -/
def Denotes (column : List Char) (number : Nat) : Prop :=
  IsNumeral column number ∨
    ∃ zeros digits, column = List.replicate zeros '0' ++ '+' :: digits ∧ digits ≠ [] ∧
      IsNumeral digits number

/-- What a row tells: which token moved between which parties, and how much of it. What a value
column stands for is left open. -/
structure Tells (stands : List Char → Nat → Prop) (row : TransferRow)
    (sender receiver token : Address) (number : Nat) : Prop where
  token : row.token = token
  sender : Names row.sender.toList sender
  receiver : Names row.receiver.toList receiver
  value : stands row.value.toList number

section Party

variable {text digits : List Char} {number : Nat} {account : Address}

/-- The mark is no digit, so digits do not begin with it. -/
theorem dropOpening_of_value? (value : Numeral.value? 16 digits = some number)
    (spelled : text = digits ∨ text = '0' :: 'x' :: digits) :
    Text.dropOpening ['0', 'x'] text = digits := by
  rcases spelled with rfl | rfl
  · rcases Text.eq_dropOpening_or_eq_append ['0', 'x'] text with bare | marked
    · exact bare.symm
    · rw [marked] at value
      cases value
  · exact Text.dropOpening_append ['0', 'x'] digits

theorem names_iff :
    Names text account ↔
      (Text.dropOpening ['0', 'x'] text).length ∈ [39, 40, 63, 64] ∧
        ∃ number, Numeral.value? 16 (Text.dropOpening ['0', 'x'] text) = some number ∧
          bigEndian account.toList = number % 256 ^ 20 := by
  constructor
  · rintro ⟨digits, number, spelled, length, value, ends⟩
    rw [dropOpening_of_value? value spelled]
    exact ⟨length, number, value, ends⟩
  · rintro ⟨length, number, value, ends⟩
    exact ⟨_, number, Text.eq_dropOpening_or_eq_append ['0', 'x'] text, length, value, ends⟩

/-- A topic is the account that its last bytes are. -/
theorem toAddress_eq_iff {topic : Hash} :
    topic.toAddress = account ↔
      bigEndian account.toList = bigEndian topic.toList % 256 ^ 20 := by
  rw [← FixedBytes.bigEndian_takeLast 20 (by decide), ← FixedBytes.bigEndian_inj]
  exact eq_comm

/-- A party column is asked for the account that it names. -/
theorem party?_eq_some_iff {column : String} :
    party? column = some account ↔ Names column.toList account := by
  rw [names_iff, party?]
  split
  next topic isTopic =>
      obtain ⟨value, filled⟩ := FixedBytes.ofHex_eq_ok_iff.mp isTopic
      rw [Option.some_inj, toAddress_eq_iff, value]
      have length : (Text.dropOpening ['0', 'x'] column.toList).length ∈ [39, 40, 63, 64] := by
        simp only [List.mem_cons]
        omega
      simp [length]
  next fault noTopic =>
      have below (other : Address) : bigEndian other.toList < 256 ^ 20 := by
        have below := bigEndian_lt other.toList
        rwa [other.length_toList] at below
      rw [toOption_eq_some_iff, FixedBytes.ofHex_eq_ok_iff]
      constructor
      · rintro ⟨value, filled⟩
        refine ⟨?_, _, value, (Nat.mod_eq_of_lt (below account)).symm⟩
        simp only [List.mem_cons]
        omega
      · rintro ⟨length, number, value, ends⟩
        -- With as many digits as a topic has, the column would have been read as one.
        have short : ((Text.dropOpening ['0', 'x'] column.toList).length + 1) / 2 ≠ 32 := by
          intro filled
          obtain ⟨topic, isTopic, -⟩ := FixedBytes.exists_ofHex value filled.symm
          cases noTopic.symm.trans isTopic
        have filled : 20 = ((Text.dropOpening ['0', 'x'] column.toList).length + 1) / 2 := by
          simp only [List.mem_cons, List.not_mem_nil, or_false] at length
          omega
        obtain ⟨other, -, rfl⟩ := FixedBytes.exists_ofHex value filled
        rw [Nat.mod_eq_of_lt (below other)] at ends
        exact ⟨ends ▸ value, filled⟩

end Party

section Value

variable {text digits : List Char} {c : Char} {number : Nat}

/-- The reader begins behind the zeros, and zeros in front do not change what is denoted. -/
theorem denotes_zero_cons : Denotes ('0' :: text) number ↔ Denotes text number := by
  have same : IsNumeral ('0' :: text) number ↔ IsNumeral text number := by
    rw [IsNumeral, IsNumeral, Numeral.value?_zero_cons (by decide)]
  rw [Denotes, Denotes, same]
  refine or_congr_right ⟨?_, ?_⟩
  · rintro ⟨zeros, digits, spelled, something, value⟩
    cases zeros with
    | zero => cases spelled
    | succ zeros => exact ⟨zeros, digits, (List.cons.inj spelled).2, something, value⟩
  · rintro ⟨zeros, digits, rfl, something, value⟩
    exact ⟨zeros + 1, digits, rfl, something, value⟩

/-- Without a sign, a column denotes what it is the numeral of. -/
theorem denotes_iff_of_not_mem (unsigned : '+' ∉ text) :
    Denotes text number ↔ IsNumeral text number := by
  refine or_iff_left ?_
  rintro ⟨zeros, digits, rfl, -⟩
  exact unsigned (List.mem_append_right _ List.mem_cons_self)

/-- Behind the zeros, a column that is read begins with a digit or with a sign. -/
theorem denotes_cons_iff (significant : c ≠ '0') :
    Denotes (c :: text) number ↔
      IsNumeral (c :: text) number ∨ c = '+' ∧ text ≠ [] ∧ IsNumeral text number := by
  refine or_congr_right ⟨?_, ?_⟩
  · rintro ⟨zeros, digits, spelled, something, value⟩
    cases zeros with
    | zero =>
        obtain ⟨rfl, rfl⟩ := List.cons.inj spelled
        exact ⟨rfl, something, value⟩
    | succ zeros => exact absurd (List.cons.inj spelled).1 significant
  · rintro ⟨rfl, something, value⟩
    exact ⟨0, text, rfl, something, value⟩

/-- What is read of a column behind its zeros. -/
theorem read_eq_ok_iff (significant : c ≠ '0') :
    (Numeral.read 16 Amount.count (c :: text)).toOption = some number ↔
      Denotes (c :: text) number ∧ number < Amount.count := by
  have reads (digits : List Char) :
      (Numeral.readDigits 16 Amount.count digits 0).toOption = some number ↔
        IsNumeral digits number ∧ number < Amount.count := by
    rw [Numeral.toOption_readDigits_zero (by decide) (by decide), Option.filter_eq_some_iff,
      decide_eq_true_eq, IsNumeral]
  rw [denotes_cons_iff significant]
  by_cases sign : c = '+'
  · subst sign
    have noNumeral : ¬ IsNumeral ('+' :: text) number := by
      intro value
      cases value
    by_cases something : text = []
    · subst something
      simp [Numeral.read, Except.toOption, noNumeral]
    · rw [Numeral.read_plus something, reads text]
      simp [noNumeral, something]
  · rw [Numeral.read_cons sign, reads (c :: text)]
    simp [sign]

/-- A value column is asked for the number that it denotes, if that is an amount. -/
theorem amount?_eq_some_iff {column : String} :
    amount? column = some number ↔ Denotes column.toList number ∧ number < Amount.count := by
  rw [amount?]
  induction column.toList with
  | nil =>
      have positive : 0 < Amount.count := by decide
      rw [List.dropWhile_nil, Option.some_inj, denotes_iff_of_not_mem List.not_mem_nil]
      constructor
      · rintro rfl
        exact ⟨rfl, positive⟩
      · rintro ⟨value, -⟩
        exact Option.some_inj.mp value
  | cons c column ih =>
      by_cases significant : c = '0'
      · subst significant
        rw [denotes_zero_cons, ← ih]
        rfl
      · have kept : (c :: column).dropWhile (· == '0') = c :: column :=
          List.dropWhile_cons_of_neg (by simpa using significant)
        rw [kept]
        exact read_eq_ok_iff significant

end Value

section Rows

variable {row : TransferRow} {sender receiver token : Address} {limit : Amount} {number : Nat}

theorem Tells.imp {stands reads : List Char → Nat → Prop}
    (tells : Tells stands row sender receiver token number)
    (value : stands row.value.toList number → reads row.value.toList number) :
    Tells reads row sender receiver token number :=
  ⟨tells.token, tells.sender, tells.receiver, value tells.value⟩

theorem rowMoves_iff_tells :
    rowMoves sender receiver token limit row = true ↔
      ∃ number ≤ limit.toNat, Tells Denotes row sender receiver token number := by
  simp only [rowMoves, Bool.and_eq_true, decide_eq_true_eq, party?_eq_some_iff,
    Option.any_eq_true, amount?_eq_some_iff]
  constructor
  · rintro ⟨⟨⟨isToken, isSender⟩, isReceiver⟩, number, ⟨denotes, -⟩, within⟩
    exact ⟨number, within, isToken, isSender, isReceiver, denotes⟩
  · rintro ⟨number, within, isToken, isSender, isReceiver, denotes⟩
    have below : number < Amount.count := Nat.lt_of_le_of_lt within limit.toNat_lt
    exact ⟨⟨⟨isToken, isSender⟩, isReceiver⟩, number, ⟨denotes, below⟩, within⟩

/-- A transfer is found if some row tells of it, whatever texts the columns of the rows hold.
Where no value has a plus sign in it, the rows tell of it by the numerals in their value columns.
A row whose value denotes no amount is found for no limit, and what is found for a limit is
found for every higher one. -/
theorem transfers_are_found_by_columns (rows : List TransferRow)
    (sender receiver token : Address) (limit : Amount) :
    (movesToken rows sender receiver token limit = true ↔
      ∃ row ∈ rows, ∃ number ≤ limit.toNat, Tells Denotes row sender receiver token number) ∧
    ((∀ row ∈ rows, '+' ∉ row.value.toList) →
      (movesToken rows sender receiver token limit = true ↔
        ∃ row ∈ rows, ∃ number ≤ limit.toNat,
          Tells IsNumeral row sender receiver token number)) ∧
    (∀ row ∈ rows, (∀ number, Denotes row.value.toList number → Amount.count ≤ number) →
      rowMoves sender receiver token limit row = false) ∧
    ∀ higher : Amount, limit.toNat ≤ higher.toNat →
      movesToken rows sender receiver token limit = true →
        movesToken rows sender receiver token higher = true := by
  have found (limit : Amount) : movesToken rows sender receiver token limit = true ↔
      ∃ row ∈ rows, ∃ number ≤ limit.toNat, Tells Denotes row sender receiver token number := by
    simp only [movesToken, List.any_eq_true, rowMoves_iff_tells]
  refine ⟨found limit, fun unsigned => ?_, fun row member none => ?_, fun higher above => ?_⟩
  · rw [found limit]
    refine exists_congr fun row => and_congr_right fun member => ?_
    refine exists_congr fun number => and_congr_right fun within => ?_
    have same : Denotes row.value.toList number ↔ IsNumeral row.value.toList number :=
      denotes_iff_of_not_mem (unsigned row member)
    exact ⟨fun tells => tells.imp same.mp, fun tells => tells.imp same.mpr⟩
  · rw [← Bool.not_eq_true, rowMoves_iff_tells]
    rintro ⟨number, within, tells⟩
    have below : number < Amount.count := Nat.lt_of_le_of_lt within limit.toNat_lt
    exact Nat.not_le.mpr below (none number tells.value)
  · rw [found limit, found higher]
    rintro ⟨row, member, number, within, tells⟩
    exact ⟨row, member, number, within.trans above, tells⟩

/-- The row of a topic and of an address that lacks its first digit, with zeros in front of its
value, before a row with a value that is no numeral. The first is found for the amount that it
tells of, and for a higher one; the other is not found. -/
theorem padded_value_is_found :
    let row : TransferRow :=
      { sender := String.ofList (.replicate 39 '1')
        receiver := String.ofList ('0' :: 'x' :: .replicate 64 '2')
        token := .zero 20
        value := "002A"
        depth := 0
        traceIndex := 0
        path := []
        tag := none }
    let blank : TransferRow := { row with value := "2a " }
    let sender : Address := ⟨1 :: .replicate 19 0x11, rfl⟩
    let receiver : Address := ⟨.replicate 20 0x22, rfl⟩
    (∀ other ∈ [row, blank], '+' ∉ other.value.toList) ∧
      Tells IsNumeral row sender receiver (.zero 20) 42 ∧
      movesToken [row, blank] sender receiver (.zero 20) ⟨42, by decide⟩ = true ∧
      movesToken [row, blank] sender receiver (.zero 20) ⟨43, by decide⟩ = true ∧
      rowMoves sender receiver (.zero 20) ⟨42, by decide⟩ blank = false := by
  intro row blank sender receiver
  have unsigned : ∀ other ∈ [row, blank], '+' ∉ other.value.toList := by decide
  have tells : Tells IsNumeral row sender receiver (.zero 20) 42 :=
    { token := rfl
      sender := ⟨.replicate 39 '1', 0x111111111111111111111111111111111111111, by decide⟩
      receiver :=
        ⟨.replicate 64 '2', 0x2222222222222222222222222222222222222222222222222222222222222222,
          by decide⟩
      value := by decide }
  obtain ⟨-, plain, never, higher⟩ :=
    transfers_are_found_by_columns [row, blank] sender receiver (.zero 20) ⟨42, by decide⟩
  have found := (plain unsigned).mpr ⟨row, by simp, 42, by decide, tells⟩
  refine ⟨unsigned, tells, found, higher ⟨43, by decide⟩ (by decide) found, ?_⟩
  refine never blank (by simp) fun number denotes => ?_
  have noNumeral : Numeral.value? 16 "2a ".toList = some number :=
    (denotes_iff_of_not_mem (unsigned blank (by simp))).mp denotes
  cases noNumeral

/-- Not every transfer that is found has the numeral of its value in some row: a plus sign in
front of the digits is passed over. -/
theorem signed_value_is_found :
    ¬ ∀ (rows : List TransferRow) (sender receiver token : Address) (limit : Amount),
      movesToken rows sender receiver token limit = true →
        ∃ row ∈ rows, ∃ number ≤ limit.toNat,
          Tells IsNumeral row sender receiver token number := by
  intro numerals
  let account : Address := .zero 20
  let row : TransferRow :=
    ⟨String.ofList account.toHex, String.ofList account.toHex, account, "+2a", 0, 0, [], none⟩
  have found : movesToken [row] account account account ⟨42, by decide⟩ = true := by decide
  obtain ⟨found, member, number, -, tells⟩ := numerals _ _ _ _ _ found
  obtain rfl := List.mem_singleton.mp member
  have isNumeral : Numeral.value? 16 "+2a".toList = some number := tells.value
  cases isNumeral

end Rows

end Query

end CallTrace
