import Switchboard.Proofs.Connect.Readiness

/-!
# Pools under many hands

The loops that a pool has in use run (`LoopPool.Sound`), whoever starts and stops pools and deals
out loops.  Dealing out a loop of one selector moves a rotation and nothing else, so the loops of
every selector run on; a pool that was stopped has no loops in use, and one that could not be
started is what it was.
-/

namespace Switchboard.LoopPool

variable {p p' : LoopPool} {s : LoopSelector}

/-- The loops in use run. -/
def Sound (p : LoopPool) : Prop := ∀ s, p.selector? = some s → p.Runs s

lemma sound_empty : ({} : LoopPool).Sound := fun s hs => by cases hs

/-- Dealing out a loop leaves the loops in use what they are. -/
@[simp] lemma selector?_next (p : LoopPool) (s : LoopSelector) :
    (p.next s).2.selector? = p.selector? := by
  unfold next
  split
  · rfl
  · split <;> rfl

/-- Dealing out a loop of any selector stops none. -/
lemma Runs.deal (h : p.Runs s) (s' : LoopSelector) : (p.next s').2.Runs s := by
  obtain ⟨g, hg, hsome, hrunning⟩ := h
  unfold LoopPool.next
  split
  · exact ⟨g, hg, hsome, hrunning⟩
  · rename_i g' hg'
    split
    · exact ⟨g, hg, hsome, hrunning⟩
    · by_cases hs : s'.generation = s.generation
      · have hgeneration : p.generations[s.generation]? = some g := hg
        have hgeneration' : p.generations[s'.generation]? = some g' := hg'
        have hsame : g' = g := Option.some.inj (hgeneration'.symm.trans (hs ▸ hgeneration))
        have hbound := (List.getElem?_eq_some_iff.mp hgeneration).1
        exact ⟨{ g' with cursor := g'.cursor + 1 }, by simp [generation?, hs, hbound],
          hsame ▸ hsome, hsame ▸ hrunning⟩
      · exact ⟨g, (List.getElem?_set_ne hs).trans hg, hsome, hrunning⟩

/-- The same for a loop that may not be in use any more. -/
lemma isStopped_next (p : LoopPool) (s : LoopSelector) (l : EventLoop) :
    (p.next s).2.isStopped l = p.isStopped l := by
  unfold next
  split
  · rfl
  · rename_i g hg
    have hgeneration : p.generations[s.generation]? = some g := hg
    split
    · rfl
    · have hbound := (List.getElem?_eq_some_iff.mp hgeneration).1
      by_cases hl : s.generation = l.generation
      · have hset : (p.generations.set s.generation
            { g with cursor := g.cursor + 1 })[s.generation]? =
              some { g with cursor := g.cursor + 1 } := by
          simp [hbound]
        simp only [isStopped, hset, ← hl, hgeneration]
      · simp [isStopped, List.getElem?_set_ne hl]

lemma Sound.next (h : p.Sound) (s : LoopSelector) : (p.next s).2.Sound := fun s' hs' =>
  (h s' (by simpa using hs')).deal s

/-- A pool that cannot be started is what it was. -/
lemma eq_of_init_error {count : Nat} {start : Nat → Except SystemError Unit} {e : NetworkError}
    (h : p.init count start = (.error e, p')) : p' = p := by
  unfold init at h
  split at h
  · exact (Prod.mk.inj h).2.symm
  · split at h
    · exact (Prod.mk.inj h).2.symm
    · split at h
      · exact (Prod.mk.inj h).2.symm
      · cases h

/-- Only a pool without loops in use is started. -/
lemma selector?_of_init_ok {count : Nat} {start : Nat → Except SystemError Unit}
    (h : p.init count start = (.ok (), p')) : p.selector? = none ∧ p'.selector?.isSome = true := by
  obtain ⟨s, hs, -⟩ := runs_of_init h
  refine ⟨?_, by simp [hs]⟩
  unfold init at h
  split at h
  · cases h
  · split at h
    · cases h
    · rename_i hfree
      simpa [selector?] using hfree

lemma Sound.init (h : p.Sound) (count : Nat) (start : Nat → Except SystemError Unit) :
    (p.init count start).2.Sound := by
  rcases hinit : p.init count start with ⟨_ | ⟨⟩, p'⟩
  · exact eq_of_init_error hinit ▸ h
  · obtain ⟨s, hs, hruns⟩ := runs_of_init hinit
    intro s' hs'
    exact Option.some.inj (hs.symm.trans hs') ▸ hruns

/-- A pool that was stopped has no loops in use. -/
@[simp] lemma selector?_exit (p : LoopPool) : p.exit.selector? = none := by
  unfold exit
  split
  · rename_i hnone
    simp [selector?, hnone]
  · rfl

lemma sound_exit (p : LoopPool) : p.exit.Sound := fun s hs => by simp at hs

/-- A pool has loops exactly if some are in use. -/
lemma Sound.size_pos_iff (h : p.Sound) : 0 < p.size ↔ p.selector?.isSome = true := by
  cases hs : p.selector? with
  | none => simp [size, hs]
  | some s =>
    obtain ⟨g, hg, hsome, -⟩ := h s hs
    simpa [size, hs, lengthOf, hg, LoopGeneration.size] using List.length_pos_iff.mpr hsome

end Switchboard.LoopPool
