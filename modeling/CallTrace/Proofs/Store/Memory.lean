/-
# A store in memory holds the last record of every transaction

The records are kept in ascending order of their keys, and a record goes to the place of its
key. So of the records that were put under one key the last one is held, and where the others
stood does not matter. Two hashes have the same key only if they are the same, so there is one
record for every transaction. This is also true of a store that refuses some records and keeps
the others in memory.
-/

import CallTrace.Proofs.Bytes.Decode
import CallTrace.Proofs.Replay.Accounts
import CallTrace.Store.Memory
import Mathlib.Data.List.Induction
import Mathlib.Data.List.Nodup
import Mathlib.Data.String.Basic
import Mathlib.Tactic.SplitIfs

namespace CallTrace

/-- Records offered in two parts. -/
theorem TraceStore.offerAll_append {σ : Type} [TraceStore σ] (first second : List TraceRecord)
    (store : σ) :
    offerAll (first ++ second) store =
      ((offerAll first store).1 ++ (offerAll second (offerAll first store).2).1,
        (offerAll second (offerAll first store).2).2) := by
  induction first generalizing store with
  | nil => rfl
  | cons record first ih =>
      rw [List.cons_append, offerAll, ih]
      rfl

namespace TraceRecord

/-- The last record of every transaction, in the order in which they stand. -/
def latest : List TraceRecord → List TraceRecord
  | [] => []
  | record :: later =>
    if later.any (·.metadata.hash == record.metadata.hash) then latest later
    else record :: latest later

/-- Records in ascending order of their keys. -/
def inOrder (records : List TraceRecord) : List TraceRecord :=
  records.mergeSort fun first second => decide (first.key ≤ second.key)

/-- Records have the same key if and only if they are of the same transaction. -/
theorem key_eq_key_iff {first second : TraceRecord} :
    first.key = second.key ↔ first.metadata.hash = second.metadata.hash := by
  constructor
  · intro same
    exact FixedBytes.eq_of_toHex_eq (String.ofList_injective same)
  · intro same
    rw [key, key, same]

theorem key_bne_key (first second : TraceRecord) :
    (first.key != second.key) = (first.metadata.hash != second.metadata.hash) := by
  rw [bne, bne, Bool.beq_eq_decide_eq, Bool.beq_eq_decide_eq]
  exact congrArg _ (decide_eq_decide.mpr key_eq_key_iff)

theorem pairwise_inOrder (records : List TraceRecord) :
    (inOrder records).Pairwise (·.key ≤ ·.key) := by
  have ordered : (inOrder records).Pairwise fun first second =>
      decide (first.key ≤ second.key) = true := by
    apply List.pairwise_mergeSort
    · intro first second third below above
      exact decide_eq_true ((of_decide_eq_true below).trans (of_decide_eq_true above))
    · intro first second
      simpa only [Bool.or_eq_true, decide_eq_true_eq] using le_total first.key second.key
  exact ordered.imp of_decide_eq_true

/-- A further record takes the place of those of the same transaction. -/
theorem latest_concat (records : List TraceRecord) (record : TraceRecord) :
    latest (records ++ [record]) =
      (latest records).filter (·.metadata.hash != record.metadata.hash) ++ [record] := by
  induction records with
  | nil => rfl
  | cons first rest ih =>
      rw [List.cons_append, latest, latest, List.any_append, List.any_cons, List.any_nil,
        Bool.or_false, ih]
      by_cases again : rest.any (·.metadata.hash == first.metadata.hash)
      · rw [again, Bool.true_or, if_pos rfl, if_pos rfl]
      · rw [Bool.not_eq_true] at again
        rw [again, Bool.false_or, if_neg Bool.false_ne_true]
        by_cases same : record.metadata.hash = first.metadata.hash
        · rw [same, beq_self_eq_true, if_pos rfl, List.filter_cons_of_neg (by simp)]
        · have different : (record.metadata.hash == first.metadata.hash) = false := by
            simpa using same
          rw [different, if_neg Bool.false_ne_true,
            List.filter_cons_of_pos (by simpa using Ne.symm same), List.cons_append]

end TraceRecord

namespace MemoryStore

open TraceRecord

/-- In ascending order of the keys, without a key twice. -/
def Ascending (records : List TraceRecord) : Prop :=
  records.Pairwise (·.key < ·.key)

variable {kept : List TraceRecord}

theorem mem_insert {record found : TraceRecord} (member : found ∈ insert record kept) :
    found = record ∨ found ∈ kept := by
  induction kept with
  | nil => exact .inl (List.mem_singleton.mp member)
  | cons first rest ih =>
      rw [insert] at member
      split_ifs at member
      · exact List.mem_cons.mp member
      · exact (List.mem_cons.mp member).imp_right (List.mem_cons_of_mem first)
      · rcases List.mem_cons.mp member with rfl | behind
        · exact .inr List.mem_cons_self
        · exact (ih behind).imp_right (List.mem_cons_of_mem first)

/-- A record that is put keeps the order. -/
theorem Ascending.insert (ascending : Ascending kept) (record : TraceRecord) :
    Ascending (insert record kept) := by
  induction kept with
  | nil => exact List.pairwise_singleton _ _
  | cons first rest ih =>
      obtain ⟨above, behind⟩ := List.pairwise_cons.mp ascending
      rw [MemoryStore.insert]
      split_ifs with before here
      · refine List.pairwise_cons.mpr ⟨fun other member => ?_, ascending⟩
        rcases List.mem_cons.mp member with rfl | later
        · exact before
        · exact before.trans (above other later)
      · exact List.pairwise_cons.mpr ⟨fun other member => here ▸ above other member, behind⟩
      · refine List.pairwise_cons.mpr ⟨fun other member => ?_, ih behind⟩
        rcases mem_insert member with rfl | later
        · exact lt_of_le_of_ne (not_lt.mp before) (Ne.symm here)
        · exact above other later

theorem filter_key_of_lt {record : TraceRecord} (above : ∀ other ∈ kept, record.key < other.key) :
    kept.filter (·.key != record.key) = kept := by
  rw [List.filter_eq_self]
  intro other member
  exact bne_iff_ne.mpr (above other member).ne'

/-- A record that is put is there, and so are the others that have other keys. -/
theorem Ascending.insert_perm (ascending : Ascending kept) (record : TraceRecord) :
    (MemoryStore.insert record kept).Perm (record :: kept.filter (·.key != record.key)) := by
  induction kept with
  | nil => exact .refl _
  | cons first rest ih =>
      obtain ⟨above, behind⟩ := List.pairwise_cons.mp ascending
      rw [MemoryStore.insert]
      split_ifs with before here
      · -- The record comes before all others, so none of them has its key.
        rw [filter_key_of_lt]
        intro other member
        rcases List.mem_cons.mp member with rfl | later
        · exact before
        · exact before.trans (above other later)
      · rw [List.filter_cons_of_neg (by simpa using here.symm), filter_key_of_lt]
        rwa [here]
      · rw [List.filter_cons_of_pos (by simpa using Ne.symm here)]
        exact ((ih behind).cons first).trans (.swap record first _)

/-- Under one key there is one record. -/
theorem Ascending.eq_of_key_eq (ascending : Ascending kept) {first second : TraceRecord}
    (held : first ∈ kept) (alsoHeld : second ∈ kept) (same : first.key = second.key) :
    first = second :=
  List.inj_on_of_nodup_map (List.pairwise_map.mpr (ascending.imp ne_of_lt)) held alsoHeld same

/-- Records put one after the other are all taken. -/
theorem offerAll_taken (records : List TraceRecord) (store : MemoryStore) :
    (TraceStore.offerAll records store).1 = records.map (fun _ => true) := by
  induction records generalizing store with
  | nil => rfl
  | cons record records ih => exact congrArg (true :: ·) (ih _)

/-- What is held after records were put is in order, and is the last record of every
transaction. -/
theorem offerAll_records (records : List TraceRecord) :
    Ascending (TraceStore.offerAll records empty).2.records ∧
      (TraceStore.offerAll records empty).2.records.Perm (latest records) := by
  induction records using List.reverseRecOn with
  | nil => exact ⟨.nil, .refl _⟩
  | append_singleton records record ih =>
      obtain ⟨ascending, those⟩ := ih
      rw [TraceStore.offerAll_append, latest_concat]
      refine ⟨ascending.insert record, (ascending.insert_perm record).trans ?_⟩
      simp only [key_bne_key]
      exact ((those.filter _).cons record).trans (List.perm_append_singleton record _).symm

/-- After records were put, the store holds the last record of every transaction in ascending
order of the keys. -/
theorem offerAll_eq (records : List TraceRecord) :
    TraceStore.offerAll records empty =
      (records.map (fun _ => true), ⟨inOrder (latest records)⟩) := by
  obtain ⟨ascending, those⟩ := offerAll_records records
  have same : (inOrder (latest records)).Perm (TraceStore.offerAll records empty).2.records :=
    (List.mergeSort_perm _ _).trans those.symm
  have distinct : ∀ first second, first ∈ (TraceStore.offerAll records empty).2.records →
      second ∈ inOrder (latest records) → first.key ≤ second.key → second.key ≤ first.key →
      first = second := by
    intro first second held listed below above
    exact ascending.eq_of_key_eq held (same.mem_iff.mp listed) (le_antisymm below above)
  have held : (TraceStore.offerAll records empty).2.records = inOrder (latest records) :=
    same.symm.eq_of_pairwise distinct (ascending.imp le_of_lt) (pairwise_inOrder _)
  exact Prod.ext (offerAll_taken records empty) (congrArg MemoryStore.mk held)

end MemoryStore

namespace TraceStore

variable {σ : Type} [TraceStore σ]

/-- Every record that is offered is answered. -/
theorem length_offerAll (records : List TraceRecord) (store : σ) :
    (TraceStore.offerAll records store).1.length = records.length := by
  induction records generalizing store with
  | nil => rfl
  | cons record records ih => exact congrArg (· + 1) (ih _)

/-- The records among those offered one after the other that a store takes. -/
def taken : List TraceRecord → σ → List TraceRecord
  | [], _ => []
  | record :: records, store =>
    let answer := TraceStore.put record store
    if answer.1.isOk then record :: taken records answer.2 else taken records answer.2

/-- A store keeps in a memory what it takes, and what it refuses leaves the memory alone. -/
structure KeepsIn (memory : σ → MemoryStore) : Prop where
  taken {record : TraceRecord} {store : σ} :
    (TraceStore.put record store).1 = .ok () →
      memory (TraceStore.put record store).2 = (TraceStore.put record (memory store)).2
  refused {record : TraceRecord} {store : σ} {cause : StoreError} :
    (TraceStore.put record store).1 = .error cause →
      memory (TraceStore.put record store).2 = memory store

/-- The memory has seen the records that were taken, and no others. -/
theorem KeepsIn.offerAll {memory : σ → MemoryStore} (keeps : KeepsIn memory)
    (records : List TraceRecord) (store : σ) :
    memory (TraceStore.offerAll records store).2 =
      (TraceStore.offerAll (TraceStore.taken records store) (memory store)).2 := by
  induction records generalizing store with
  | nil => rfl
  | cons record records ih =>
      rw [TraceStore.offerAll, TraceStore.taken, ih]
      cases answer : (TraceStore.put record store).1 with
      | ok done =>
          rw [keeps.taken answer]
          rfl
      | error cause =>
          rw [keeps.refused answer]
          rfl

/-- What the memory holds in the end is the last record taken of every transaction. -/
theorem KeepsIn.records_eq {memory : σ → MemoryStore} (keeps : KeepsIn memory)
    {store : σ} (new : memory store = .empty) (records : List TraceRecord) :
    (memory (TraceStore.offerAll records store).2).records =
      TraceRecord.inOrder (TraceRecord.latest (TraceStore.taken records store)) := by
  rw [keeps.offerAll, new, MemoryStore.offerAll_eq]

end TraceStore

/-- A store in memory that refuses some records keeps the others. -/
theorem GuardedStore.keepsIn : TraceStore.KeepsIn GuardedStore.store where
  taken := by
    intro record guarded isTaken
    simp only [TraceStore.put] at isTaken ⊢
    by_cases refused : guarded.refused.contains guarded.offers
    · rw [if_pos refused] at isTaken
      cases isTaken
    · rw [if_neg refused]
  refused := by
    intro record guarded cause isRefused
    simp only [TraceStore.put] at isRefused ⊢
    by_cases refused : guarded.refused.contains guarded.offers
    · rw [if_pos refused]
    · rw [if_neg refused] at isRefused
      cases isRefused

end CallTrace
