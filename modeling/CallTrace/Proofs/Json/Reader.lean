/-
# Written values are read back

The reader takes the tokens of a value in any surroundings: it delivers the value to the
innermost open container and goes on with what follows. So a written value that stands
alone is read as itself.
-/

import CallTrace.Json.Reader
import CallTrace.Proofs.Json.Lexer
import CallTrace.Proofs.Text.Utf8

namespace CallTrace.Json

namespace Reader

theorem run_cons {reader : Reader} (next : Reader) {token : JsonToken}
    (step : reader.step token = some next) (rest : List JsonToken) :
    reader.run (token :: rest) = next.run rest := by
  rw [run, step]
  rfl

/-- The tokens of a value are taken in and the value is delivered, whatever is open around
it. -/
def Takes (value : Json) : Prop :=
  ∀ opened rest, run ⟨opened, .value⟩ (value.tokens ++ rest) =
    (deliver value opened).bind (·.run rest)

/-- A first item is taken like any other value, since no value begins with a closing
bracket. -/
theorem Takes.firstItem {value : Json} (takes : Takes value) (opened : List Container)
    (rest : List JsonToken) :
    run ⟨opened, .firstItem⟩ (value.tokens ++ rest) = (deliver value opened).bind (·.run rest) := by
  rw [← takes]
  cases value <;> simp only [tokens, List.cons_append] <;> rfl

/-- A scalar is a token of its own. -/
theorem takes_scalar {value : Json} {token : JsonToken} (alone : value.tokens = [token])
    (taken : ∀ opened, Reader.value opened token = deliver value opened) : Takes value := by
  intro opened rest
  rw [alone, ← taken]
  rfl

/-- Further items of an array, and its end. -/
theorem run_items {items : List Json} (each : ∀ item ∈ items, Takes item) (done : List Json)
    (outer : List Container) (rest : List JsonToken) :
    run ⟨.items done :: outer, .separator⟩
        (items.flatMap (.comma :: ·.tokens) ++ .closeBracket :: rest) =
      (deliver (.array (done.reverse ++ items)) outer).bind (·.run rest) := by
  induction items generalizing done with
  | nil =>
      rw [List.append_nil]
      rfl
  | cons item items ih =>
      have later := ih fun other member => each other (List.mem_cons_of_mem item member)
      have first : Takes item := each item List.mem_cons_self
      rw [List.flatMap_cons, List.cons_append, List.cons_append, List.append_assoc,
        run_cons ⟨.items done :: outer, .value⟩ rfl, first]
      refine (later (item :: done)).trans ?_
      rw [List.reverse_cons, List.append_assoc]
      rfl

/-- A member whose key is awaited. -/
theorem run_member {member : String × Json} (takes : Takes member.2)
    {awaited : Awaited} (atKey : awaited = .key ∨ awaited = .firstKey)
    (done : List (Option String × Json)) (outer : List Container) (rest : List JsonToken) :
    run ⟨.members done :: outer, awaited⟩ (tokensOfMember member ++ rest) =
      run ⟨.members ((some member.1, member.2) :: done) :: outer, .separator⟩ rest := by
  have key : step ⟨.members done :: outer, awaited⟩ (.string (some member.1)) =
      some ⟨.member done (some member.1) :: outer, .colon⟩ := by
    rcases atKey with rfl | rfl <;> rfl
  rw [tokensOfMember, List.cons_append, List.cons_append, run_cons _ key,
    run_cons ⟨.member done (some member.1) :: outer, .value⟩ rfl, takes]
  rfl

/-- Further members of an object, and its end. -/
theorem run_members {members : List (String × Json)}
    (each : ∀ member ∈ members, Takes member.2) (done : List (Option String × Json))
    (outer : List Container) (rest : List JsonToken) :
    run ⟨.members done :: outer, .separator⟩
        (members.flatMap (.comma :: tokensOfMember ·) ++ .closeBrace :: rest) =
      (deliver (.object (done.reverse ++ members.map fun member => (some member.1, member.2)))
        outer).bind (·.run rest) := by
  induction members generalizing done with
  | nil =>
      rw [List.map_nil, List.append_nil]
      rfl
  | cons member members ih =>
      have later := ih fun other among => each other (List.mem_cons_of_mem member among)
      have first : Takes member.2 := each member List.mem_cons_self
      rw [List.flatMap_cons, List.cons_append, List.cons_append, List.append_assoc,
        run_cons ⟨.members done :: outer, .key⟩ rfl, run_member first (.inl rfl), later,
        List.reverse_cons, List.append_assoc]
      rfl

/-- The tokens of a value that is read as written are taken in anywhere. -/
theorem takes_of_plain {value : Json} (plain : Plain value) : Takes value := by
  induction plain with
  | null => exact takes_scalar rfl fun _ => rfl
  | bool value => exact takes_scalar rfl fun _ => rfl
  | nat n => exact takes_scalar rfl fun _ => rfl
  | text value => exact takes_scalar rfl fun _ => rfl
  | @array items each ih =>
      intro opened rest
      cases items with
      | nil => rfl
      | cons first others =>
          have firstTakes : Takes first := ih first List.mem_cons_self
          have further := run_items fun item member => ih item (List.mem_cons_of_mem first member)
          rw [tokens_array, List.cons_append, List.append_assoc, List.append_assoc,
            run_cons ⟨.items [] :: opened, .firstItem⟩ rfl, firstTakes.firstItem]
          exact further [first] opened rest
  | @fields members each ih =>
      intro opened rest
      cases members with
      | nil => rfl
      | cons first others =>
          have firstTakes : Takes first.2 := ih first List.mem_cons_self
          have further := run_members fun member among =>
            ih member (List.mem_cons_of_mem first among)
          rw [tokens_fields, List.cons_append, List.append_assoc, List.append_assoc,
            run_cons ⟨.members [] :: opened, .firstKey⟩ rfl, run_member firstTakes (.inr rfl)]
          exact further _ opened rest

end Reader

/-- A value is read from its written form as it is. -/
theorem Plain.ofText?_write {value : Json} (plain : Plain value) :
    ofText? value.write = some value := by
  have taken := Reader.takes_of_plain plain [] []
  rw [List.append_nil] at taken
  rw [ofText?, ofSource?, plain.lex_write]
  change (Reader.start.run value.tokens).bind _ = _
  rw [Reader.start, taken]
  rfl

/-- What a value stands for is read from its written form. -/
theorem Plain.read_write {value : Json} (plain : Plain value) {α : Type} {read : Json → Option α}
    {meaning : α} (same : read value = some meaning) :
    (ofText? value.write >>= read) = some meaning := by
  rw [plain.ofText?_write, Option.bind_eq_bind, Option.bind_some, same]

/-- A value is read from the bytes of its written form as it is. -/
theorem Plain.ofBytes?_encode_write {value : Json} (plain : Plain value) :
    ofBytes? (Utf8.encode value.write) = some value := by
  rw [ofBytes?, Utf8.scan_encode]
  exact plain.ofText?_write

end CallTrace.Json
