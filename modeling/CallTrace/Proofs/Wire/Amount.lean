/-
# The two forms of an amount

The value of a call or of a movement of native currency is a string of decimal digits or a
JSON integer. Which form stands in its field does not matter to the other fields, so a frame
or a step is read in either form as in the other, with the amount that the form stands for.
Strings stand for all amounts there are. Integers stand for those of 64 bits only: an integer
beyond them is refused, though the amount itself is none too large.
-/

import CallTrace.Proofs.Wire.Recording

namespace CallTrace

/-- A number that is written with digits alone is the number of its digits. -/
theorem JsonNumber.eq_ofNat_of_toNat? {number : JsonNumber} {n : Nat}
    (whole : number.toNat? = some n) : number = .ofNat n := by
  obtain ⟨negative, digits, fraction, exponent⟩ := number
  simp only [toNat?, Option.ite_none_right_eq_some, Bool.and_eq_true, Bool.not_eq_true',
    List.isEmpty_iff, Option.isNone_iff_eq_none, Option.some_inj] at whole
  obtain ⟨⟨⟨rfl, rfl⟩, rfl⟩, rfl⟩ := whole
  rfl

namespace Json

section Forms

variable {form : Json} {amount : Amount}

theorem toAmount?_chars_eq (text : List Char) :
    (chars text).toAmount? =
      if text = [] then none else (Numeral.value? 10 text).bind Amount.ofNat? := by
  rw [← Amount.toOption_ofDecimal, chars, toAmount?, Option.bind_eq_bind, Option.bind_some,
    String.toList_ofList]

theorem toUInt64?_nat (n : Nat) :
    (nat n).toUInt64? = if n < UInt64.size then some (UInt64.ofNat n) else none := rfl

/-- What stands for an amount can be taken in whole. -/
theorem isSound_of_toAmount? (read : form.toAmount? = some amount) (room : Nat) :
    form.isSound room := by
  cases form with
  | string value =>
      cases value with
      | none => cases read
      | some text => exact isSound_text text room
  | number value =>
      obtain ⟨bits, isBits, -⟩ := Option.map_eq_some_iff.mp read
      obtain ⟨n, whole, fits⟩ := Option.bind_eq_some_iff.mp isBits
      rw [JsonNumber.eq_ofNat_of_toNat? whole]
      exact JsonNumber.isFinite_ofNat (Option.ite_none_right_eq_some.mp fits).1
  | null => cases read
  | bool value => cases read
  | array items => cases read
  | object members => cases read

theorem toAmount?_nat (n : Nat) :
    (nat n).toAmount? = if n < UInt64.size then Amount.ofNat? n else none := by
  have inRange : UInt64.size ≤ Amount.count := by decide
  change ((nat n).toUInt64?).map Amount.ofUInt64 = _
  rw [toUInt64?_nat]
  split
  next fits =>
      have same : (UInt64.ofNat n).toNat = n := UInt64.toNat_ofNat_of_lt fits
      rw [Amount.ofNat?, dif_pos (Nat.lt_of_lt_of_le fits inRange), Option.map_some]
      simp only [Amount.ofUInt64, same]
  next => rfl

end Forms

/-- The object whose field for an amount has the given form, among other members. -/
def valued (front back : Members) (form : Json) : Json :=
  fields (front ++ ("value", form) :: back)

end Json

section Objects

variable {front back : Json.Members} {form other : Json}

/-- What is read in the form of an amount is read in any, if it stands for an amount. -/
theorem CallFrame.ofFields?_replace {callTypeOf? : Json → Option CallType} {frame : CallFrame}
    (read : ofFields? callTypeOf? (front ++ ("value", other) :: back) = some frame) :
    ofFields? callTypeOf? (front ++ ("value", form) :: back) =
      form.toAmount?.map fun amount => { frame with value := amount } := by
  simp only [ofFields?, Option.bind_eq_bind, Option.bind_eq_some_iff] at read
  obtain ⟨index, isIndex, callType, isCallType, depth, isDepth, sender, isSender, target,
    isTarget, value, isValue, gas, isGas, input, isInput, output, isOutput, made⟩ := read
  obtain rfl := Option.some_inj.mp made
  open Json.Members in
  rw [ofFields?, required_replace (by decide) isIndex, required_replace (by decide) isCallType,
    required_replace (by decide) isDepth, required_replace (by decide) isSender,
    required_replace (by decide) isTarget, optional_middle isValue,
    optional_replace (by decide) isGas, optional_replace (by decide) isInput,
    optional_replace (by decide) isOutput, Option.map_eq_bind]
  rfl

theorem Step.transferOfFields?_replace {sender receiver : Address} {value : Amount}
    {depth : UInt64}
    (read : transferOfFields? (front ++ ("value", other) :: back) =
      some (.transfer sender receiver value depth)) :
    transferOfFields? (front ++ ("value", form) :: back) =
      form.toAmount?.map fun amount => .transfer sender receiver amount depth := by
  simp only [transferOfFields?, Option.bind_eq_bind, Option.bind_eq_some_iff] at read
  obtain ⟨sender, isSender, receiver, isReceiver, value, isValue, depth, isDepth, made⟩ := read
  cases made
  open Json.Members in
  rw [transferOfFields?, required_replace (by decide) isSender,
    required_replace (by decide) isReceiver, required_middle isValue,
    required_replace (by decide) isDepth, Option.map_eq_bind]
  rfl

theorem CallFrame.ofJson?_valued {frame : CallFrame}
    (read : ofJson? (.valued front back other) = some frame) :
    ofJson? (.valued front back form) =
      form.toAmount?.map fun amount => { frame with value := amount } := by
  rw [ofJson?, Json.valued, Json.fieldsOf?_fields, Option.bind_eq_bind, Option.bind_some] at read ⊢
  exact ofFields?_replace read

namespace Step

theorem ofKind?_fields (members : Json.Members) (kind : String) :
    ofKind? (.fields members) kind =
      match kind with
      | "call" => (CallFrame.ofFields? CallType.ofWhole? members).map .call
      | "log" => (LogEvent.ofFields? members).map .log
      | "value_transfer" => transferOfFields? members
      | _ => none := by
  unfold ofKind?
  rw [Json.fieldsOf?_fields, Json.fieldsOf?_fields, Json.fieldsOf?_fields]
  rfl

/-- An object that holds a step in one form of its amount does so in any that stands for an
amount, if this is so once the kind is known. -/
theorem ofJson?_valued_of_kind {step : Step} {holding : Amount → Step}
    (read : ofJson? (.valued front back other) = some step)
    (known : ∀ kind, ofKind? (.valued front back other) kind = some step →
      ofKind? (.valued front back form) kind = form.toAmount?.map holding) :
    ofJson? (.valued front back form) = form.toAmount?.map holding := by
  rw [Json.valued, ofJson?_fields, Option.ite_none_right_eq_some] at read
  obtain ⟨sound, taken⟩ := read
  obtain ⟨kind, isKind, isStep⟩ := Option.bind_eq_some_iff.mp taken
  rw [Json.valued, ofJson?_fields, Json.Members.required_replace (by decide) isKind,
    Option.bind_some]
  change (if _ then ofKind? (.valued front back form) kind else none) = _
  rw [known kind isStep]
  cases stands : form.toAmount? with
  | none => exact ite_self _
  | some amount =>
      refine if_pos (Json.isSound_fields_iff.mpr fun member among => ?_)
      rw [nesting, Json.isSound_fields_iff] at sound
      rcases List.mem_append.mp among with before | later
      · exact sound member (List.mem_append_left _ before)
      · rcases List.mem_cons.mp later with rfl | behind
        · exact Json.isSound_of_toAmount? stands _
        · exact sound member (List.mem_append_right _ (List.mem_cons_of_mem _ behind))

theorem ofJson?_valued_call {frame : CallFrame}
    (read : ofJson? (.valued front back other) = some (.call frame)) :
    ofJson? (.valued front back form) =
      form.toAmount?.map fun amount => .call { frame with value := amount } := by
  refine ofJson?_valued_of_kind read fun kind isStep => ?_
  rw [Json.valued, ofKind?_fields] at isStep ⊢
  split at isStep
  next =>
      obtain ⟨found, isFrame, same⟩ := Option.map_eq_some_iff.mp isStep
      cases same
      rw [CallFrame.ofFields?_replace isFrame, Option.map_map]
      rfl
  next =>
      obtain ⟨log, -, same⟩ := Option.map_eq_some_iff.mp isStep
      cases same
  next =>
      simp only [transferOfFields?, Option.bind_eq_bind, Option.bind_eq_some_iff] at isStep
      obtain ⟨_, -, _, -, _, -, _, -, made⟩ := isStep
      cases made
  next => cases isStep

theorem ofJson?_valued_transfer {sender receiver : Address} {value : Amount} {depth : UInt64}
    (read : ofJson? (.valued front back other) = some (.transfer sender receiver value depth)) :
    ofJson? (.valued front back form) =
      form.toAmount?.map fun amount => .transfer sender receiver amount depth := by
  refine ofJson?_valued_of_kind read fun kind isStep => ?_
  rw [Json.valued, ofKind?_fields] at isStep ⊢
  split at isStep
  next =>
      obtain ⟨found, -, same⟩ := Option.map_eq_some_iff.mp isStep
      cases same
  next =>
      obtain ⟨log, -, same⟩ := Option.map_eq_some_iff.mp isStep
      cases same
  next => exact transferOfFields?_replace isStep
  next => cases isStep

end Step

end Objects

/-- How an object is read for the forms of the amount in it. -/
structure ReadsAmounts {α : Type} (object : Json → Json) (read : Json → Option α)
    (holding : Amount → α) : Prop where
  /-- A string of the digits of an amount, behind any number of zeros, stands for the amount. -/
  string (zeros : Nat) (amount : Amount) :
    read (object (.chars (List.replicate zeros '0' ++ amount.toDecimal))) = some (holding amount)
  /-- So does an integer of 64 bits. -/
  integer (amount : Amount) (fits : amount.toNat < UInt64.size) :
    read (object (.nat amount.toNat)) = some (holding amount)
  /-- An integer of more bits is refused. -/
  long (n : Nat) (beyond : UInt64.size ≤ n) : read (object (.nat n)) = none
  empty : read (object (.chars [])) = none
  /-- So is a string with anything else than digits in it. -/
  noDigit {c : Char} {text : List Char} (member : c ∈ text) (other : c.isDigit = false) :
    read (object (.chars text)) = none
  /-- And so are the digits of a number that is no amount. -/
  tooLarge {number : Nat} {text : List Char} (denotes : Numeral.value? 10 text = some number)
    (beyond : Amount.count ≤ number) : read (object (.chars text)) = none

/-- It is enough that an object is read as its form of an amount is. -/
theorem ReadsAmounts.of_toAmount? {α : Type} {object : Json → Json} {read : Json → Option α}
    {holding : Amount → α} (known : ∀ form, read (object form) = form.toAmount?.map holding) :
    ReadsAmounts object read holding where
  string zeros amount := by
    have something : List.replicate zeros '0' ++ amount.toDecimal ≠ [] :=
      List.append_ne_nil_of_right_ne_nil _ (Numeral.decimal_ne_nil _)
    have value : Numeral.value? 10 amount.toDecimal = some amount.toNat :=
      Numeral.value?_toDigits (by decide) (by decide) _
    rw [known, Json.toAmount?_chars_eq, if_neg something,
      Numeral.value?_replicate_zero_append (by decide), value, Option.bind_some, Amount.ofNat?,
      dif_pos amount.toNat_lt]
    rfl
  integer amount fits := by
    rw [known, Json.toAmount?_nat, if_pos fits, Amount.ofNat?, dif_pos amount.toNat_lt]
    rfl
  long n beyond := by
    rw [known, Json.toAmount?_nat, if_neg (Nat.not_lt.mpr beyond)]
    rfl
  empty := by
    rw [known]
    rfl
  noDigit {c text} member other := by
    have noNumber : Numeral.value? 10 text = none := by
      rw [← Option.not_isSome_iff_eq_none, Numeral.isSome_value?_ten, List.all_eq_true]
      exact fun digits => Bool.false_ne_true (other.symm.trans (digits c member))
    rw [known, Json.toAmount?_chars_eq, noNumber]
    exact congrArg _ (ite_self _)
  tooLarge denotes beyond := by
    rw [known, Json.toAmount?_chars_eq, denotes, Option.bind_some, Amount.ofNat?,
      dif_neg (Nat.not_lt.mpr beyond), ite_self]
    rfl

/-- In frames, and in calls and movements of native currency among the steps of a recording,
an amount may be a string of digits or an integer, and what is read is the same for both. If the
object is read with anything in the field of the amount, then it is read with the digits of
every amount there, and with every integer of 64 bits. It is refused with an integer of more
bits, and with a string that is no decimal numeral of an amount. -/
theorem amounts_are_read_in_both_forms (front back : Json.Members) (other : Json) :
    (∀ frame, CallFrame.ofJson? (.valued front back other) = some frame →
      ReadsAmounts (.valued front back) CallFrame.ofJson? fun amount =>
        { frame with value := amount }) ∧
    (∀ frame, Step.ofJson? (.valued front back other) = some (.call frame) →
      ReadsAmounts (.valued front back) Step.ofJson? fun amount =>
        .call { frame with value := amount }) ∧
    ∀ sender receiver value depth,
      Step.ofJson? (.valued front back other) = some (.transfer sender receiver value depth) →
        ReadsAmounts (.valued front back) Step.ofJson? fun amount =>
          .transfer sender receiver amount depth := by
  refine ⟨fun frame read => ?_, fun frame read => ?_, fun sender receiver value depth read => ?_⟩
  · exact .of_toAmount? fun form => CallFrame.ofJson?_valued read
  · exact .of_toAmount? fun form => Step.ofJson?_valued_call read
  · exact .of_toAmount? fun form => Step.ofJson?_valued_transfer read

/-- Twenty units of the currency, in its smallest unit. -/
def twentyUnits : Amount :=
  ⟨20000000000000000000, by decide⟩

/-- Frames, calls and movements of native currency that are read with nothing in the field of
the amount, and so with twenty units there. The string is read, with zeros in front as well, and
the integer is not. -/
theorem twenty_units_are_read_from_string :
    let frame : CallFrame := default
    let front := frame.toFields.take 5
    let back := frame.toFields.drop 6
    let sides : Json.Members :=
      [("kind", .text "value_transfer"), ("from", FixedBytes.toJson (.zero 20)),
        ("to", FixedBytes.toJson (.zero 20))]
    let level : Json.Members := [("depth", .uint64 3)]
    let step (amount : Amount) : Step := .transfer (.zero 20) (.zero 20) amount 3
    let zero := Json.chars Amount.zero.toDecimal
    let twenty := Json.chars (['0', '0'] ++ twentyUnits.toDecimal)
    (CallFrame.ofJson? (.valued front back zero) = some frame ∧
      CallFrame.ofJson? (.valued front back twenty) = some { frame with value := twentyUnits }) ∧
    (Step.ofJson? (.valued (("kind", .text "call") :: front) back zero) = some (.call frame) ∧
      Step.ofJson? (.valued (("kind", .text "call") :: front) back twenty) =
        some (.call { frame with value := twentyUnits })) ∧
    Step.ofJson? (.valued sides level zero) = some (step .zero) ∧
      Step.ofJson? (.valued sides level twenty) = some (step twentyUnits) ∧
      Step.ofJson? (.valued sides level (.nat 42)) = some (step ⟨42, by decide⟩) ∧
      Step.ofJson? (.valued sides level (.nat 20000000000000000000)) = none ∧
      Step.ofJson? (.valued sides level (.chars ['+', '5'])) = none := by
  intro frame front back sides level step zero twenty
  have asFrame : CallFrame.ofJson? (.valued front back zero) = some frame := frame.ofJson?_toJson
  have asCall : Step.ofJson? (.valued (("kind", .text "call") :: front) back zero) =
      some (.call frame) :=
    (Step.call frame).ofJson?_toJson
  have asTransfer : Step.ofJson? (.valued sides level zero) = some (step .zero) :=
    (step .zero).ofJson?_toJson
  have frames := (amounts_are_read_in_both_forms front back _).1 _ asFrame
  have calls := (amounts_are_read_in_both_forms _ back _).2.1 _ asCall
  have transfers := (amounts_are_read_in_both_forms sides level _).2.2 _ _ _ _ asTransfer
  exact ⟨⟨asFrame, frames.string 2 twentyUnits⟩, ⟨asCall, calls.string 2 twentyUnits⟩,
    asTransfer, transfers.string 2 twentyUnits,
    transfers.integer ⟨42, by decide⟩ (by decide), transfers.long 20000000000000000000 (by decide),
    transfers.noDigit List.mem_cons_self rfl⟩

/-- An integer is not read for every amount that a string is read for. -/
theorem twenty_units_are_not_read_from_integer :
    ¬ ∀ (front back : Json.Members) (other : Json) (frame : CallFrame),
      CallFrame.ofJson? (.valued front back other) = some frame →
        ∀ amount : Amount, CallFrame.ofJson? (.valued front back (.nat amount.toNat)) =
          some { frame with value := amount } := by
  intro reads
  let frame : CallFrame := default
  have read : CallFrame.ofJson? (.valued (frame.toFields.take 5) (frame.toFields.drop 6)
      (.chars frame.value.toDecimal)) = some frame :=
    frame.ofJson?_toJson
  have refused : (Json.nat twentyUnits.toNat).toAmount? = none := by
    rw [Json.toAmount?_nat]
    exact if_neg (by decide)
  have accepted := reads _ _ _ _ read twentyUnits
  rw [CallFrame.ofJson?_valued read, refused] at accepted
  cases accepted

end CallTrace
