/-
# What the questions ask of the execution

A question is answered from texts: a party may be a topic or an address, and a value is
any number of digits, with zeros in front or without. What they were written for is found
again in every case, so a row answers for the step that it comes from.
-/

import CallTrace.Proofs.Query.Columns
import CallTrace.Proofs.Rows.Transfer
import CallTrace.Proofs.Stamps

namespace CallTrace

namespace Step

/-- Whether a step is a call of the function of a contract that a selector names. -/
def Calls (address : Address) (selector : FixedBytes 4) : Step → Prop
  | .call frame => frame.target = address ∧ selector.toList <+: frame.input
  | .log _ => False
  | .transfer _ _ _ _ => False

/-- Whether a step moves a token between two parties, for at most `limit`. A log does if it
comes from the contract of the token and announces a transfer, with the parties in the
last bytes of two topics. The native currency has the zero address for its contract. -/
def Moves (sender receiver token : Address) (limit : Amount) : Step → Prop
  | .call _ => False
  | .log emitted =>
    emitted.address = token ∧
      (emitted.topics.length = 3 ∨ emitted.topics.length = 4) ∧
      emitted.topic 0 = Signature.transfer ∧
      (emitted.topic 1).toAddress = sender ∧ (emitted.topic 2).toAddress = receiver ∧
      bigEndian emitted.moved ≤ limit.toNat
  | .transfer source target value _ =>
    token = .zero 20 ∧ source = sender ∧ target = receiver ∧ value.toNat ≤ limit.toNat

end Step

namespace Query

open Rows

section Party

/-- A topic names the account in its last bytes. -/
theorem party?_topic (topic : Hash) :
    party? (String.ofList topic.toHex) = some topic.toAddress := by
  simp only [party?, String.toList_ofList, FixedBytes.ofHex_toHex]

/-- An address is too short for a topic. -/
theorem ofHex_address (address : Address) :
    (FixedBytes.ofHex address.toHex : Except HexFault Hash) = .error (.badLength 32 20) := by
  have short : (FixedBytes.ofList? address.toList : Option Hash) = none := by
    rw [FixedBytes.ofList?, dif_neg]
    rw [address.length_toList]
    decide
  simp only [FixedBytes.ofHex, FixedBytes.toHex, Hex.decode_encodeMarked, short,
    address.length_toList]

theorem party?_address (address : Address) :
    party? (String.ofList address.toHex) = some address := by
  simp only [party?, String.toList_ofList, ofHex_address, FixedBytes.ofHex_toHex]
  rfl

end Party

section Amount

/-- A limit is an amount, so a number that is none is above it. -/
theorem any_amount?_digits {digits : List Nat} (below : ∀ digit ∈ digits, digit < 16)
    (limit : Amount) :
    (amount? (String.ofList (digits.map Nat.digitChar))).any (· ≤ limit.toNat) = true ↔
      Numeral.extend 16 0 digits ≤ limit.toNat := by
  have numeral : IsNumeral (digits.map Nat.digitChar) (Numeral.extend 16 0 digits) := by
    rw [IsNumeral, Numeral.value?, Numeral.digits?_map_digitChar (Nat.le_refl 16) below,
      Option.map_some]
  have unsigned : '+' ∉ digits.map Nat.digitChar := by
    intro member
    obtain ⟨digit, among, sign⟩ := List.mem_map.mp member
    exact Numeral.digitChar_ne_plus (below digit among) sign
  simp only [Option.any_eq_true, amount?_eq_some_iff, String.toList_ofList,
    denotes_iff_of_not_mem unsigned, decide_eq_true_eq]
  constructor
  · rintro ⟨number, ⟨isNumeral, -⟩, within⟩
    rwa [Option.some_inj.mp (numeral.symm.trans isNumeral)]
  · intro within
    exact ⟨_, ⟨numeral, Nat.lt_of_le_of_lt within limit.toNat_lt⟩, within⟩

/-- The value of bytes, however many there are. -/
theorem any_amount?_encode (bytes : List UInt8) (limit : Amount) :
    (amount? (String.ofList (Hex.encode bytes))).any (· ≤ limit.toNat) = true ↔
      bigEndian bytes ≤ limit.toNat := by
  rw [Hex.encode_eq_map_halves, any_amount?_digits (Hex.halves_lt bytes), Hex.extend_halves]

theorem any_amount?_toHexadecimal (value limit : Amount) :
    (amount? (String.ofList value.toHexadecimal)).any (· ≤ limit.toNat) = true ↔
      value.toNat ≤ limit.toNat := by
  have large : 1 < 16 := by decide
  obtain ⟨digits, below, written, denotes⟩ := Numeral.exists_digits large value.toNat
  rw [Amount.toHexadecimal, Numeral.hexadecimal, written, any_amount?_digits below, denotes]

end Amount

section Rows

variable {earlier : List Step} {step : Step} {transfer : TransferRecord}

/-- What a step leaves behind can be written into a row. -/
theorem written_of_transfer? (leaves : step.transfer? earlier = some transfer) :
    transfer.Written := by
  rcases Step.transfer?_cases leaves with
    ⟨emitted, rfl, announced, rfl⟩ | ⟨sender, receiver, value, depth, rfl, rfl⟩
  · constructor <;> simp only [Step.tokenTransfer, String.toList_ofList]
    case sender => exact (plain_toHex (emitted.topic 1)).fits
    case receiver => exact (plain_toHex (emitted.topic 2)).fits
    case value => exact (plain_encode emitted.moved).fits
    case tag => exact emitted.isTransfer_of_announces announced
  · constructor <;> simp only [Step.nativeTransfer, String.toList_ofList]
    case sender => exact (plain_toHex sender).fits
    case receiver => exact (plain_toHex receiver).fits
    case value => exact (plain_hexadecimal value.toNat).fits
    case tag => rfl

/-- So can everything that steps leave behind. -/
theorem written_gather (steps : List Step) :
    ∀ transfer ∈ Step.gather Step.transfer? steps, transfer.Written := by
  intro transfer member
  obtain ⟨place, step, -, leaves⟩ := Step.mem_gather.mp member
  exact written_of_transfer? leaves

/-- The row of a step answers for the step. -/
theorem rowMoves_row_iff (tagged : Bool) (leaves : step.transfer? earlier = some transfer)
    (sender receiver token : Address) (limit : Amount) :
    rowMoves sender receiver token limit (transfer.row tagged) = true ↔
      step.Moves sender receiver token limit := by
  rcases Step.transfer?_cases leaves with
    ⟨emitted, rfl, announced, rfl⟩ | ⟨source, target, value, depth, rfl, rfl⟩
  · obtain ⟨count, signature⟩ := emitted.announces_iff.mp announced
    rw [TransferRecord.row, Step.tokenTransfer]
    simp only [rowMoves, party?_topic, Bool.and_eq_true, decide_eq_true_eq, Option.some_inj,
      any_amount?_encode, Step.Moves, count, signature, true_and, and_assoc]
  · have native : FixedBytes.zero 20 = token ↔ token = .zero 20 := eq_comm
    rw [TransferRecord.row, Step.nativeTransfer]
    simp only [rowMoves, party?_address, Bool.and_eq_true, decide_eq_true_eq, Option.some_inj,
      any_amount?_toHexadecimal, Step.Moves, and_assoc, native]

/-- A step that moves something leaves a transfer behind. -/
theorem exists_transfer?_of_moves {sender receiver token : Address} {limit : Amount}
    (moves : step.Moves sender receiver token limit) (earlier : List Step) :
    ∃ transfer, step.transfer? earlier = some transfer := by
  cases step with
  | call frame => cases moves
  | log emitted =>
      obtain ⟨-, count, signature, -⟩ := moves
      have announced : emitted.announces = true := emitted.announces_iff.mpr ⟨count, signature⟩
      exact ⟨_, if_pos announced⟩
  | transfer source target value depth => exact ⟨_, rfl⟩

/-- The rows of a transaction answer for its steps. -/
theorem movesToken_iff (tagged : Bool) (steps : List Step) (sender receiver token : Address)
    (limit : Amount) :
    movesToken ((Step.gather Step.transfer? steps).map (TransferRecord.row tagged)) sender receiver
        token limit = true ↔
      ∃ step ∈ steps, step.Moves sender receiver token limit := by
  rw [movesToken, List.any_map, List.any_eq_true]
  constructor
  · rintro ⟨transfer, member, moves⟩
    obtain ⟨place, step, here, leaves⟩ := Step.mem_gather.mp member
    exact ⟨step, List.mem_of_getElem? here, (rowMoves_row_iff tagged leaves ..).mp moves⟩
  · rintro ⟨step, member, moves⟩
    obtain ⟨place, here⟩ := List.mem_iff_getElem?.mp member
    obtain ⟨transfer, leaves⟩ := exists_transfer?_of_moves moves (steps.take place)
    exact ⟨transfer, Step.mem_gather.mpr ⟨place, step, here, leaves⟩,
      (rowMoves_row_iff tagged leaves ..).mpr moves⟩

/-- The records of a transaction answer for its calls. -/
theorem callsFunction_iff (steps : List Step) (address : Address) (selector : FixedBytes 4) :
    callsFunction (Nesting.records (Step.frames steps)) address selector = true ↔
      ∃ step ∈ steps, step.Calls address selector := by
  have byFrames : callsFunction (Nesting.records (Step.frames steps)) address selector =
      (Step.frames steps).any fun frame =>
        frame.target = address && selector.toList.isPrefixOf frame.input := by
    rw [callsFunction, ← Nesting.map_frame_records (Step.frames steps), List.any_map,
      Nesting.map_frame_records]
    rfl
  rw [byFrames, List.any_eq_true]
  simp only [Bool.and_eq_true, decide_eq_true_eq, List.isPrefixOf_iff_prefix]
  constructor
  · rintro ⟨frame, member, calls⟩
    obtain ⟨step, among, isCall⟩ := List.mem_filterMap.mp member
    cases step with
    | call other =>
        obtain rfl := Option.some_inj.mp isCall
        exact ⟨.call other, among, calls⟩
    | log emitted => cases isCall
    | transfer source target value depth => cases isCall
  · rintro ⟨step, member, calls⟩
    cases step with
    | call frame => exact ⟨frame, List.mem_filterMap.mpr ⟨.call frame, member, rfl⟩, calls⟩
    | log emitted => cases calls
    | transfer source target value depth => cases calls

end Rows

end Query

end CallTrace
