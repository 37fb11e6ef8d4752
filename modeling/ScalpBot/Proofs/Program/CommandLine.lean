import ScalpBot.Program.Arguments
import ScalpBot.Proofs.Result

/-!
# Options that are given

Reading a command line settles its options one after the other, and an option that is settled stays
(`Reading.given_prefix_readAll`). So an option without a value that stands on the command line is given,
wherever it stands, unless the program stops at once: `Arguments.dryRun_of_mem`.
-/

namespace ScalpBot.Arguments

namespace Reading

variable {r r' : Reading}

/-! ## Settled options stay -/

theorem settleOrStop_eq_ok_iff : r.settleOrStop = .ok r' ↔ r.settle = .ok r' :=
  mapError_eq_ok_iff

theorem given_prefix_settle (h : r.settle = .ok r') : r.given <+: r'.given := by
  rw [settle] at h
  split at h
  · cases h
    exact List.prefix_rfl
  · cases h
  · split at h
    · cases h
    · cases h
      exact List.prefix_append ..

theorem given_prefix_settleOrStop (h : r.settleOrStop = .ok r') : r.given <+: r'.given :=
  given_prefix_settle (settleOrStop_eq_ok_iff.mp h)

theorem given_prefix_take {s : Switch} {value : Option String} (h : r.take s value = .ok r') :
    r.given <+: r'.given := by
  unfold take at h
  split at h
  · cases h
  all_goals
    -- what is pending is settled first
    obtain ⟨settled, hsettled, h⟩ := bind_eq_ok_iff.mp h
    have hfirst : r.given <+: settled.given := given_prefix_settleOrStop hsettled
  · cases h
    exact hfirst
  · split at h
    · cases h
    · cases h
    · have hthen := given_prefix_settleOrStop h
      exact hfirst.trans hthen

theorem given_prefix_step {word : Word} (h : r.step word = .ok r') : r.given <+: r'.given := by
  cases word with
  | hyphens =>
    cases h
    exact List.prefix_rfl
  | long | short =>
    rw [step] at h
    split at h
    · exact given_prefix_take h
    · cases h
  | plain =>
    rw [step] at h
    split at h
    · cases h
      exact List.prefix_rfl
    · cases h

/-- An argument is taken before those behind it, unless it is two hyphens at the end. -/
theorem readAll_cons {text : String} {rest : List String} (h : r.readAll (text :: rest) = .ok r') :
    (Word.ofText text = .hyphens ∧ rest = [] ∧ r.settleOrStop = .ok r') ∨
      ∃ next, r.step (Word.ofText text) = .ok next ∧ next.readAll rest = .ok r' := by
  unfold readAll at h
  split at h
  · rename_i hword
    exact .inl ⟨hword, rfl, h⟩
  · cases h
  · exact .inr (bind_eq_ok_iff.mp h)

/-- **What is settled stays.** -/
theorem given_prefix_readAll {line : List String} (h : r.readAll line = .ok r') :
    r.given <+: r'.given := by
  induction line generalizing r with
  | nil => exact given_prefix_settleOrStop h
  | cons text rest ih =>
    rcases readAll_cons h with ⟨-, -, h⟩ | ⟨next, hstep, h⟩
    · exact given_prefix_settleOrStop h
    · exact (given_prefix_step hstep).trans (ih h)

/-! ## The dry run -/

/-- The option is settled as soon as it is read. -/
theorem mem_given_of_step (h : r.step (Word.ofText "--dry-run") = .ok r') :
    (Switch.dryRun, "true") ∈ r'.given := by
  have htake : r.take .dryRun none = .ok r' := h
  obtain ⟨settled, -, h⟩ := bind_eq_ok_iff.mp htake
  have hsettle := settleOrStop_eq_ok_iff.mp h
  rw [settle] at hsettle
  dsimp only at hsettle
  split at hsettle
  · cases hsettle
  · cases hsettle
    simp

theorem mem_given_of_readAll {line : List String} (hline : "--dry-run" ∈ line)
    (h : r.readAll line = .ok r') : (Switch.dryRun, "true") ∈ r'.given := by
  induction line generalizing r with
  | nil => cases hline
  | cons text rest ih =>
    rcases readAll_cons h with ⟨hword, rfl, -⟩ | ⟨next, hstep, h⟩
    · obtain rfl := List.mem_singleton.mp hline
      cases hword
    · rcases List.mem_cons.mp hline with heq | hline
      · rw [← heq] at hstep
        exact (given_prefix_readAll h).subset (mem_given_of_step hstep)
      · exact ih hline h

end Reading

/-- **A dry run that stands on the command line is one.** -/
theorem dryRun_of_mem {environmentPath? : Option String} {line : List String} {a : Arguments}
    (hline : "--dry-run" ∈ line) (h : parse environmentPath? line = .ok a) : a.dryRun = true := by
  obtain ⟨r, hread, h⟩ := bind_eq_ok_iff.mp h
  cases h
  have hmem := Reading.mem_given_of_readAll hline hread
  rw [Option.isSome_iff_ne_none, ne_eq, List.lookup_eq_none_iff]
  exact fun hnone => absurd (hnone _ hmem) (by simp)

end ScalpBot.Arguments
