import Mathlib.Data.List.Nodup
import ScalpBot.Exchange.DryRun
import ScalpBot.Proofs.Exchange.Transcript

/-!
# What a dry run does

A dry run passes all calls on but submissions, and takes those itself. So the transcript of a dry run
tells two things apart: what the exchange behind it has heard, which is `reads`, and the orders that are
only taken note of, which is `simulatedIn`. `DryRun.Simulates` says so of the states before and after
some calls. It holds of one call (`Exchange.simulates_answer`) and is passed on from call to call
(`DryRun.Simulates.trans`), so it holds of all that is heard (`Exchange.simulates_of_heard`).
-/

namespace ScalpBot

/-! ## Reads and simulated orders -/

/-- The calls of a transcript that submit no order. -/
def reads (transcript : List Exchanged) : List Exchanged :=
  transcript.filter fun e => !e.isSubmission

@[simp] theorem reads_append (first rest : List Exchanged) :
    reads (first ++ rest) = reads first ++ reads rest :=
  List.filter_append ..

theorem isSubmission_of_mem_reads {transcript : List Exchanged} {e : Exchanged}
    (h : e ∈ reads transcript) : e.isSubmission = false := by
  simpa using (List.mem_filter.mp h).2

/-- The order that a call leaves in a dry run: what was submitted, under the name that came back. -/
def Exchanged.simulated? : Exchanged → Option SimulatedOrder
  | ⟨marketId, .submitOrder side quantity price, .ok id⟩ =>
    some ⟨id, marketId, side, quantity, price⟩
  | _ => none

theorem Exchanged.simulated?_of_read {e : Exchanged} (h : e.isSubmission = false) :
    e.simulated? = none := by
  obtain ⟨marketId, call, reply⟩ := e
  cases call with
  | submitOrder => cases h
  | _ => rfl

/-- The orders that a transcript leaves in a dry run, in order. -/
def simulatedIn (transcript : List Exchanged) : List SimulatedOrder :=
  transcript.filterMap Exchanged.simulated?

@[simp] theorem simulatedIn_append (first rest : List Exchanged) :
    simulatedIn (first ++ rest) = simulatedIn first ++ simulatedIn rest :=
  List.filterMap_append ..

/-! ## Simulation -/

namespace DryRun

variable {σ : Type} {fresh : Nat → String} {inner : Exchange σ} {before middle after : DryRun σ}
  {calls first rest : List Exchanged}

/-- The names of as many orders, from the one before which `start` orders were taken. -/
def names (fresh : Nat → String) (start count : Nat) : List OrderId :=
  (List.range' start count).map fun n => ⟨SimulatedOrder.idPrefix ++ fresh n⟩

/-- **What some calls do to a dry run.**  The exchange behind it has heard the reads and nothing else,
and the orders submitted are kept behind those from before. -/
structure Simulates (fresh : Nat → String) (inner : Exchange σ) (before : DryRun σ)
    (calls : List Exchanged) (after : DryRun σ) : Prop where
  /-- The replies to the reads are those of the exchange behind. -/
  heard : inner.Heard before.inner (reads calls)
  inner_eq : after.inner = inner.after before.inner (reads calls)
  submitted_eq : after.submitted = before.submitted ++ simulatedIn calls
  /-- Every submission leaves an order. -/
  taken : ∀ e ∈ calls, e.isSubmission = true → e.simulated?.isSome = true
  named : (simulatedIn calls).map (·.id) =
    names fresh before.submitted.length (simulatedIn calls).length

theorem simulates_nil (run : DryRun σ) : Simulates fresh inner run [] run where
  heard := trivial
  inner_eq := rfl
  submitted_eq := (List.append_nil _).symm
  taken := by simp
  named := rfl

theorem Simulates.trans (hfirst : Simulates fresh inner before first middle)
    (hrest : Simulates fresh inner middle rest after) :
    Simulates fresh inner before (first ++ rest) after where
  heard := by
    rw [reads_append, Exchange.heard_append, ← hfirst.inner_eq]
    exact ⟨hfirst.heard, hrest.heard⟩
  inner_eq := by
    rw [hrest.inner_eq, hfirst.inner_eq, reads_append, Exchange.after_append]
  submitted_eq := by
    rw [hrest.submitted_eq, hfirst.submitted_eq, simulatedIn_append, List.append_assoc]
  taken := List.forall_mem_append.mpr ⟨hfirst.taken, hrest.taken⟩
  named := by
    have hstart : middle.submitted.length = before.submitted.length + (simulatedIn first).length := by
      rw [hfirst.submitted_eq, List.length_append]
    rw [simulatedIn_append, List.map_append, hfirst.named, hrest.named, hstart, List.length_append,
      names, names, names, ← List.map_append, List.range'_append_1]

/-- The orders of a dry run from its start have names that are all different, where fresh names
are. -/
theorem Simulates.nodup (h : Simulates fresh inner before calls after)
    (hfresh : Function.Injective fresh) : ((simulatedIn calls).map (·.id)).Nodup := by
  rw [h.named]
  refine (List.nodup_range').map fun a b hab => hfresh ?_
  simpa using hab

end DryRun

/-! ## One call, and all that is heard -/

namespace Exchange

open DryRun

variable {σ : Type} {fresh : Nat → String} {inner : Exchange σ}

/-- A call that submits nothing is passed on. -/
theorem dryRun_read {call : Call} (h : call.isSubmission = false) (marketId : String)
    (run : DryRun σ) :
    (inner.dryRun fresh).answer marketId call run =
      ((inner.answer marketId call run.inner).1,
        { run with inner := (inner.answer marketId call run.inner).2 }) := by
  cases call with
  | submitOrder => cases h
  | _ => rfl

/-- **One call of a dry run.** -/
theorem simulates_answer (run : DryRun σ) {e : Exchanged}
    (h : ((inner.dryRun fresh).answer e.marketId e.call run).1 = e.reply) :
    Simulates fresh inner run [e] ((inner.dryRun fresh).answer e.marketId e.call run).2 := by
  cases hsub : e.isSubmission with
  | false =>
    -- the call is a read, and the exchange behind gives the reply
    have hreads : reads [e] = [e] := by simp [reads, hsub]
    have hnone : e.simulated? = none := Exchanged.simulated?_of_read hsub
    have hread : (inner.dryRun fresh).answer e.marketId e.call run = _ :=
      dryRun_read hsub e.marketId run
    rw [hread] at h ⊢
    exact {
      heard := by rw [hreads]; exact ⟨h, trivial⟩
      inner_eq := by rw [hreads]; rfl
      submitted_eq := by simp [simulatedIn, hnone]
      taken := by simp [hsub]
      named := by simp [simulatedIn, hnone, names] }
  | true =>
    -- the call is a submission, which the dry run takes
    obtain ⟨marketId, call, reply⟩ := e
    cases call with
    | submitOrder side quantity price =>
      cases h
      exact {
        heard := trivial
        inner_eq := rfl
        submitted_eq := rfl
        taken := by simp [Exchanged.simulated?]
        named := rfl }
    | _ => cases hsub

/-- **All that is heard from a dry run.** -/
theorem simulates_of_heard {run : DryRun σ} {calls : List Exchanged}
    (h : (inner.dryRun fresh).Heard run calls) :
    Simulates fresh inner run calls ((inner.dryRun fresh).after run calls) := by
  induction calls generalizing run with
  | nil => exact simulates_nil run
  | cons e calls ih => exact (simulates_answer run h.1).trans (ih h.2)

end Exchange

end ScalpBot
