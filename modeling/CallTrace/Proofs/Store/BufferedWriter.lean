/-
# Nothing is lost in a buffer

What a writer was given is what its device holds, followed by what is still in the buffer. A
portion is added at the end of it, whatever way it goes. Where the device fails or takes a part
only, a part of the portion is added, but nothing that was added before is lost. It stays in the
buffer, and is handed over once the device takes it. As long as the device takes something of
what it is offered, every portion is added as a whole, and a writer that has been flushed has
handed over everything.
-/

import CallTrace.Store.BufferedWriter

namespace CallTrace

variable {δ : Type} [ByteSink δ]

namespace ByteSink

/-- Devices that hold bytes in the given sense hold what they take behind what they held before,
and nothing of what they do not take. -/
def Keeps (holds : List UInt8 → δ → Prop) : Prop :=
  ∀ contents device, holds contents device → ∀ bytes,
    holds (contents ++ bytes.take ((write bytes device).1.getD 0)) (write bytes device).2

/-- Besides, they take something of whatever they are offered. -/
structure Accepts (holds : List UInt8 → δ → Prop) : Prop where
  keeps : Keeps holds
  takes {contents : List UInt8} {device : δ} (held : holds contents device) {bytes : List UInt8}
    (something : bytes ≠ []) : ∃ more, (write bytes device).1 = some (more + 1)

variable {holds : List UInt8 → δ → Prop} {contents : List UInt8} {device : δ}

theorem offer_nil (device : δ) : offer [] device = ([], device) := by
  rw [offer]

/-- If something is taken of what is offered, the rest is offered next. -/
theorem offer_of_taken {later : δ} {byte : UInt8} {rest : List UInt8} {more : Nat}
    (answer : write (byte :: rest) device = (some (more + 1), later)) :
    offer (byte :: rest) device = offer (rest.drop more) later := by
  rw [offer, answer]

/-- If nothing is taken, that was all. -/
theorem offer_of_stuck {later : δ} {byte : UInt8} {rest : List UInt8} {taken : Option Nat}
    (answer : write (byte :: rest) device = (taken, later))
    (nothing : ∀ more, taken = some (more + 1) → False) :
    offer (byte :: rest) device = (byte :: rest, later) := by
  rw [offer, answer]
  obtain _ | _ | more := taken
  · rfl
  · rfl
  · exact (nothing more rfl).elim

/-- What is not taken of an offer is the end of it. -/
theorem offer_isSuffix (bytes : List UInt8) (device : δ) : (offer bytes device).1 <:+ bytes := by
  induction bytes, device using offer.induct with
  | case1 device =>
      simp only [offer_nil, List.suffix_refl]
  | case2 device byte rest more later answer ih =>
      rw [offer_of_taken answer]
      exact ih.trans ((List.drop_suffix more rest).trans (List.suffix_cons byte rest))
  | case3 device byte rest taken later nothing answer =>
      simp only [offer_of_stuck answer nothing, List.suffix_refl]

/-- What was taken of an offer stands in front of what was not, and the device holds it. -/
theorem exists_offer (keeps : Keeps holds) (held : holds contents device) (bytes : List UInt8) :
    ∃ taken, taken ++ (offer bytes device).1 = bytes ∧
      holds (contents ++ taken) (offer bytes device).2 := by
  induction bytes, device using offer.induct generalizing contents with
  | case1 device =>
      rw [offer_nil]
      exact ⟨[], rfl, by rwa [List.append_nil]⟩
  | case2 device byte rest more later answer ih =>
      have added := keeps _ _ held (byte :: rest)
      rw [answer] at added
      obtain ⟨next, whole, last⟩ := ih added
      rw [offer_of_taken answer]
      refine ⟨byte :: rest.take more ++ next, ?_, by rwa [← List.append_assoc]⟩
      rw [List.append_assoc, whole, List.cons_append, List.take_append_drop]
  | case3 device byte rest taken later nothing answer =>
      have added := keeps _ _ held (byte :: rest)
      have none : taken.getD 0 = 0 := by
        obtain _ | _ | more := taken
        · rfl
        · rfl
        · exact (nothing more rfl).elim
      rw [answer, none, List.take_zero] at added
      rw [offer_of_stuck answer nothing]
      exact ⟨[], rfl, added⟩

/-- A device that always takes something has taken everything in the end. -/
theorem offer_accepted (accepts : Accepts holds) (held : holds contents device)
    (bytes : List UInt8) : (offer bytes device).1 = [] := by
  induction bytes, device using offer.induct generalizing contents with
  | case1 device => rw [offer_nil]
  | case2 device byte rest more later answer ih =>
      have added := accepts.keeps _ _ held (byte :: rest)
      rw [answer] at added
      rw [offer_of_taken answer]
      exact ih added
  | case3 device byte rest taken later nothing answer =>
      obtain ⟨more, some⟩ := accepts.takes held (List.cons_ne_nil byte rest)
      rw [answer] at some
      exact (nothing more some).elim

end ByteSink

namespace BufferedWriter

variable {holds : List UInt8 → δ → Prop}

/-- What a writer was given: its device holds the beginning, and the buffer is the rest. -/
def Given (holds : List UInt8 → δ → Prop) (bytes : List UInt8) (writer : BufferedWriter δ) :
    Prop :=
  ∃ contents, holds contents writer.device ∧ contents ++ writer.buffer = bytes

variable {bytes : List UInt8} {writer : BufferedWriter δ}

omit [ByteSink δ] in
theorem given_of_empty (held : holds bytes writer.device) (empty : writer.buffer = []) :
    Given holds bytes writer :=
  ⟨bytes, held, by rw [empty, List.append_nil]⟩

omit [ByteSink δ] in
theorem Given.held (given : Given holds bytes writer) (empty : writer.buffer = []) :
    holds bytes writer.device := by
  obtain ⟨contents, held, rfl⟩ := given
  rwa [empty, List.append_nil]

section Flush

/-- A flush leaves in the buffer what was not taken. -/
theorem flush_eq (writer : BufferedWriter δ) :
    writer.flush =
      ((ByteSink.offer writer.buffer writer.device).1.isEmpty,
        ⟨(ByteSink.offer writer.buffer writer.device).1,
          (ByteSink.offer writer.buffer writer.device).2⟩) := rfl

theorem flushed_iff : writer.flush.1 = true ↔ writer.flush.2.buffer = [] :=
  List.isEmpty_iff

/-- Where room was made for a portion that is as large as the buffer, the buffer is empty. -/
theorem buffer_of_makeRoom {portion : List UInt8} (room : (writer.makeRoom portion).1 = true)
    (large : capacity ≤ portion.length) : (writer.makeRoom portion).2.buffer = [] := by
  rw [BufferedWriter.makeRoom] at room ⊢
  by_cases full : capacity < writer.buffer.length + portion.length
  · rw [if_pos full] at room ⊢
    exact flushed_iff.mp room
  · rw [if_neg full]
    exact List.eq_nil_of_length_eq_zero (by change writer.buffer.length = 0; omega)

end Flush

section Keeping

/-- Flushing only moves what is in the buffer, however much of it the device takes. -/
theorem Given.flush (keeps : ByteSink.Keeps holds) (given : Given holds bytes writer) :
    Given holds bytes writer.flush.2 := by
  obtain ⟨contents, held, rfl⟩ := given
  obtain ⟨taken, whole, more⟩ := ByteSink.exists_offer keeps held writer.buffer
  exact ⟨contents ++ taken, more, by rw [List.append_assoc]; exact congrArg _ whole⟩

theorem Given.makeRoom (keeps : ByteSink.Keeps holds)
    (given : Given holds bytes writer) (portion : List UInt8) :
    Given holds bytes (writer.makeRoom portion).2 := by
  rw [BufferedWriter.makeRoom]
  split
  · exact given.flush keeps
  · exact given

/-- Of a portion a part is added behind what was given before: all of it if it is taken, and
not all of it if it is not. -/
theorem Given.put (keeps : ByteSink.Keeps holds) (given : Given holds bytes writer)
    (portion : List UInt8) :
    ∃ part rest, part ++ rest = portion ∧ Given holds (bytes ++ part) (writer.put portion).2 ∧
      ((writer.put portion).1 = true → rest = []) ∧
      ((writer.put portion).1 = false → portion ≠ [] → rest ≠ []) := by
  have kept := given.makeRoom keeps portion
  have emptied : (writer.makeRoom portion).1 = true → _ := buffer_of_makeRoom
  rw [BufferedWriter.put]
  generalize writer.makeRoom portion = made at kept emptied ⊢
  obtain ⟨room, writer⟩ := made
  cases room with
  | false => exact ⟨[], portion, rfl, by rwa [List.append_nil], by simp, by simp⟩
  | true =>
      by_cases large : capacity ≤ portion.length
      · -- The buffer is empty, so a portion that goes past it goes in its turn.
        obtain ⟨part, whole, more⟩ :=
          ByteSink.exists_offer keeps (kept.held (emptied rfl large)) portion
        simp only [Bool.not_true, Bool.false_eq_true, if_false, if_pos large]
        exact ⟨part, _, whole, given_of_empty more (emptied rfl large),
          List.isEmpty_iff.mp, fun left _ => by simpa using left⟩
      · obtain ⟨contents, held, rfl⟩ := kept
        simp only [Bool.not_true, Bool.false_eq_true, if_false, if_neg large]
        exact ⟨portion, [], List.append_nil _, ⟨contents, held, (List.append_assoc _ _ _).symm⟩,
          fun _ => rfl, by simp⟩

/-- Of several portions the front is added in order: everything if all were taken, and not
everything if one was not and the last holds something. -/
theorem Given.putAll (keeps : ByteSink.Keeps holds) (given : Given holds bytes writer)
    (portions : List (List UInt8)) :
    ∃ text missing, text ++ missing = portions.flatten ∧
      Given holds (bytes ++ text) (writer.putAll portions).2 ∧
      ((writer.putAll portions).1 = true → missing = []) ∧
      ((writer.putAll portions).1 = false →
        ∀ closing ∈ portions.getLast?, closing ≠ [] → missing ≠ []) := by
  induction portions generalizing bytes writer with
  | nil => exact ⟨[], [], rfl, by rwa [List.append_nil], fun _ => rfl, by simp⟩
  | cons portion portions ih =>
      obtain ⟨part, rest, whole, kept, all, some⟩ := given.put keeps portion
      rw [BufferedWriter.putAll]
      generalize writer.put portion = result at kept all some ⊢
      obtain ⟨taken, writer⟩ := result
      cases taken with
      | false =>
          refine ⟨part, rest ++ portions.flatten, ?_, kept, by simp, ?_⟩
          · rw [← List.append_assoc, whole, List.flatten_cons]
          · rintro - closing last something nothing
            obtain ⟨noRest, noOthers⟩ := List.append_eq_nil_iff.mp nothing
            cases portions with
            | nil =>
                obtain rfl : portion = closing := by simpa using last
                exact some rfl something noRest
            | cons next others =>
                rw [List.getLast?_cons_cons] at last
                exact something
                  (List.flatten_eq_nil_iff.mp noOthers _ (List.mem_of_mem_getLast? last))
      | true =>
          obtain rfl := all rfl
          rw [List.append_nil] at whole
          obtain ⟨text, missing, split, more, complete, cut⟩ := ih (whole ▸ kept)
          refine ⟨portion ++ text, missing, ?_, ?_, complete, ?_⟩
          · rw [List.append_assoc, split, List.flatten_cons]
          · rwa [← List.append_assoc]
          · intro failed closing last
            cases portions with
            | nil => cases failed
            | cons next others =>
                rw [List.getLast?_cons_cons] at last
                exact cut failed closing last

end Keeping

section Accepting

/-- A flush hands over everything that was given. -/
theorem Given.flush_accepted (accepts : ByteSink.Accepts holds)
    (given : Given holds bytes writer) :
    writer.flush.1 = true ∧ writer.flush.2.buffer = [] ∧ Given holds bytes writer.flush.2 := by
  have taken : writer.flush.2.buffer = [] := by
    obtain ⟨contents, held, -⟩ := given
    exact ByteSink.offer_accepted accepts held writer.buffer
  exact ⟨flushed_iff.mpr taken, taken, given.flush accepts.keeps⟩

theorem Given.put_accepted (accepts : ByteSink.Accepts holds) (given : Given holds bytes writer)
    (portion : List UInt8) :
    (writer.put portion).1 = true ∧ Given holds (bytes ++ portion) (writer.put portion).2 := by
  have room : (writer.makeRoom portion).1 = true := by
    rw [BufferedWriter.makeRoom]
    split
    · exact (given.flush_accepted accepts).1
    · rfl
  have taken : (writer.put portion).1 = true := by
    obtain ⟨contents, held, -⟩ := given.makeRoom accepts.keeps portion
    rw [BufferedWriter.put]
    simp only [room, Bool.not_true, Bool.false_eq_true, if_false]
    split
    · exact List.isEmpty_iff.mpr (ByteSink.offer_accepted accepts held portion)
    · rfl
  obtain ⟨part, rest, whole, added, all, -⟩ := given.put accepts.keeps portion
  obtain rfl := all taken
  rw [List.append_nil] at whole
  exact ⟨taken, whole ▸ added⟩

theorem Given.putAll_accepted (accepts : ByteSink.Accepts holds)
    (given : Given holds bytes writer) (portions : List (List UInt8)) :
    (writer.putAll portions).1 = true ∧
      Given holds (bytes ++ portions.flatten) (writer.putAll portions).2 := by
  induction portions generalizing bytes writer with
  | nil =>
      rw [List.flatten_nil, List.append_nil]
      exact ⟨rfl, given⟩
  | cons portion portions ih =>
      obtain ⟨taken, more⟩ := given.put_accepted accepts portion
      have next : writer.put portion = (true, (writer.put portion).2) := Prod.ext taken rfl
      rw [BufferedWriter.putAll, next, List.flatten_cons, ← List.append_assoc]
      exact ih more

end Accepting

section Refusals

/-- A portion that is smaller than the buffer is not taken exactly if there is no room for it and
the device will make none. -/
theorem put_refused_iff {portion : List UInt8} (short : portion.length < capacity) :
    (writer.put portion).1 = false ↔
      capacity < writer.buffer.length + portion.length ∧ writer.flush.1 = false := by
  rw [BufferedWriter.put, BufferedWriter.makeRoom]
  by_cases full : capacity < writer.buffer.length + portion.length
  · simp only [full, if_neg (Nat.not_le.mpr short), true_and]
    rcases writer.flush with ⟨_ | _, _⟩ <;> simp
  · simp [full, Nat.not_le.mpr short]

/-- Where such a portion is not taken, nothing more happens than that the flush fails. -/
theorem put_of_refused {portion : List UInt8} (short : portion.length < capacity)
    (refused : (writer.put portion).1 = false) : (writer.put portion).2 = writer.flush.2 := by
  obtain ⟨full, kept⟩ := (put_refused_iff short).mp refused
  rw [BufferedWriter.put, BufferedWriter.makeRoom, if_pos full]
  simp only [kept, Bool.not_false, if_true]

end Refusals

section Fitting

/-- A portion for which there is room goes into the buffer, and the device is not asked. -/
theorem put_of_fits {portion : List UInt8} (short : portion.length < capacity)
    (fits : writer.buffer.length + portion.length ≤ capacity) :
    writer.put portion = (true, { writer with buffer := writer.buffer ++ portion }) := by
  rw [put, makeRoom, if_neg (Nat.not_lt.mpr fits)]
  simp only [Bool.not_true, Bool.false_eq_true, if_false, if_neg (Nat.not_le.mpr short)]

/-- Portions for all of which there is room go into the buffer, and the device is not asked. -/
theorem putAll_of_fits {portions : List (List UInt8)} (begun : writer.buffer ≠ [])
    (fits : writer.buffer.length + portions.flatten.length ≤ capacity) :
    writer.putAll portions =
      (true, { writer with buffer := writer.buffer ++ portions.flatten }) := by
  induction portions generalizing writer with
  | nil => rw [putAll, List.flatten_nil, List.append_nil]
  | cons portion portions ih =>
      rw [List.flatten_cons, List.length_append] at fits
      have filled : 0 < writer.buffer.length := List.length_pos_iff.mpr begun
      rw [putAll, put_of_fits (by omega) (by omega), List.flatten_cons, ← List.append_assoc]
      refine ih (by simp [begun]) ?_
      simp only [List.length_append]
      omega

end Fitting

section Bounded

theorem length_flush_le (bounded : writer.buffer.length ≤ capacity) :
    writer.flush.2.buffer.length ≤ capacity :=
  Nat.le_trans (ByteSink.offer_isSuffix _ _).length_le bounded

/-- Where room was made for a portion that is smaller than the buffer, there is room. -/
theorem length_makeRoom_le {portion : List UInt8} (room : (writer.makeRoom portion).1 = true)
    (short : portion.length < capacity) :
    (writer.makeRoom portion).2.buffer.length + portion.length ≤ capacity := by
  rw [BufferedWriter.makeRoom] at room ⊢
  by_cases full : capacity < writer.buffer.length + portion.length
  · rw [if_pos full] at room ⊢
    rw [flushed_iff.mp room, List.length_nil, Nat.zero_add]
    exact Nat.le_of_lt short
  · rw [if_neg full]
    exact Nat.le_of_not_lt full

/-- The buffer never holds more than it has room for. -/
theorem length_put_le (bounded : writer.buffer.length ≤ capacity) (portion : List UInt8) :
    (writer.put portion).2.buffer.length ≤ capacity := by
  have fits : (writer.makeRoom portion).1 = true → _ := length_makeRoom_le
  have made : (writer.makeRoom portion).2.buffer.length ≤ capacity := by
    rw [BufferedWriter.makeRoom]
    split
    · exact length_flush_le bounded
    · exact bounded
  rw [BufferedWriter.put]
  generalize writer.makeRoom portion = result at fits made ⊢
  obtain ⟨room, after⟩ := result
  cases room with
  | false => exact made
  | true =>
      by_cases large : capacity ≤ portion.length
      · simpa [large] using made
      · simpa [large] using fits rfl (Nat.lt_of_not_le large)

theorem length_putAll_le (bounded : writer.buffer.length ≤ capacity)
    (portions : List (List UInt8)) : (writer.putAll portions).2.buffer.length ≤ capacity := by
  induction portions generalizing writer with
  | nil => exact bounded
  | cons portion portions ih =>
      have next := length_put_le bounded portion
      rw [BufferedWriter.putAll]
      generalize writer.put portion = result at next ⊢
      obtain ⟨taken, after⟩ := result
      cases taken with
      | false => exact next
      | true => exact ih next

end Bounded

end BufferedWriter

end CallTrace
