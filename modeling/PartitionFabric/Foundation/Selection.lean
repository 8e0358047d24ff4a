import Mathlib.Data.List.MinMax
import PartitionFabric.Foundation.KeyedMap

/-!
Running minima over a keyed map: a scan that keeps its first least entry selects the least key
among the entries of least rank.
-/

section Scan

variable {α β γ : Type*} [LinearOrder γ]

/-- One step of a scan for the least rank; the first of equals is kept. -/
def keepLesser (rank : α → γ) (best : Option α) (a : α) : Option α :=
  match best with
  | none => some a
  | some b => if rank a < rank b then some a else some b

lemma foldl_keepLesser (rank : α → γ) (l : List α) :
    l.foldl (keepLesser rank) none = l.argmin rank := by
  unfold List.argmin
  congr 1
  funext best a
  cases best with
  | none => rfl
  | some b => rfl

/-- A scan that passes over some of its entries is a scan of the others. -/
lemma foldl_keepLesser_filter (rank : α → γ) (p : α → Bool) (l : List α) :
    (l.foldl (fun best a ↦ if p a then keepLesser rank best a else best) none) =
      (l.filter p).argmin rank := by
  rw [← List.foldl_filter, foldl_keepLesser]

lemma argmin_map (f : α → β) (rank : β → γ) (l : List α) :
    (l.map f).argmin rank = (l.argmin (rank ∘ f)).map f := by
  rw [← foldl_keepLesser, ← foldl_keepLesser, List.foldl_map, ← List.foldl_hom (Option.map f)]
  · rfl
  · intro best a
    cases best with
    | none => rfl
    | some b =>
        simp only [Option.map_some, keepLesser, Function.comp_apply]
        split <;> rfl

/-- In a list ordered by a relation, whatever ranks no higher than the first least entry is that
entry or follows it. -/
lemma argmin_pairwise {r : α → α → Prop} {rank : α → γ} {l : List α} {m a : α}
    (hl : l.Pairwise r) (hm : l.argmin rank = some m) (ha : a ∈ l) (hle : rank a ≤ rank m) :
    a = m ∨ r m a := by
  classical
  have hmem : m ∈ l := List.argmin_mem hm
  have hindex : l.idxOf m ≤ l.idxOf a := List.index_of_argmin hm ha hle
  rcases hindex.lt_or_eq with hlt | heq
  · right
    have hfollows := List.pairwise_iff_getElem.mp hl _ _ (List.idxOf_lt_length_of_mem hmem)
      (List.idxOf_lt_length_of_mem ha) hlt
    rwa [List.getElem_idxOf, List.getElem_idxOf] at hfollows
  · exact Or.inl ((List.idxOf_inj hmem).mp heq).symm

end Scan

namespace KeyedMap

variable {κ α β γ : Type*} [LinearOrder κ] [LinearOrder γ]

lemma mem_entries {m : KeyedMap κ α} {k : κ} {v : α} :
    (k, v) ∈ m.entries ↔ m.find? k = some v := find?_eq_some_iff_mem.symm

/-- The entry of a map that a scan of the derived values selects: of the admitted entries of least
rank, the one with the least key. -/
theorem argmin_values {m : KeyedMap κ α} {f : α → β} {rank : β → γ} {p : β → Bool} {b : β}
    (h : ((m.values.map f).filter p).argmin rank = some b) :
    ∃ k a, m.find? k = some a ∧ f a = b ∧ p b = true ∧
      ∀ j c, m.find? j = some c → p (f c) = true →
        rank b ≤ rank (f c) ∧ (rank (f c) = rank b → k ≤ j) := by
  have hscan : ((m.entries.filter fun e ↦ p (f e.2)).argmin fun e ↦ rank (f e.2)).map
      (fun e ↦ f e.2) = some b := by
    rw [← h, values, List.map_map, List.filter_map]
    exact (argmin_map (fun e : κ × α ↦ f e.2) rank _).symm
  obtain ⟨⟨k, a⟩, hargmin, hb⟩ := Option.map_eq_some_iff.mp hscan
  obtain ⟨hentry, hp⟩ := List.mem_filter.mp (List.argmin_mem hargmin)
  refine ⟨k, a, mem_entries.mp hentry, hb, hb ▸ hp, fun j c hc hpc ↦ ?_⟩
  have hadmitted : (j, c) ∈ m.entries.filter fun e ↦ p (f e.2) :=
    List.mem_filter.mpr ⟨mem_entries.mpr hc, hpc⟩
  have hle : rank (f a) ≤ rank (f c) :=
    List.le_of_mem_argmin (f := fun e : κ × α ↦ rank (f e.2)) hadmitted hargmin
  refine ⟨hb ▸ hle, fun heq ↦ ?_⟩
  have hsorted : (m.entries.filter fun e ↦ p (f e.2)).Pairwise fun e e' ↦ e.1 < e'.1 :=
    m.sorted.sublist List.filter_sublist
  have hrank : rank (f c) ≤ rank (f a) := (heq.trans (congrArg rank hb.symm)).le
  rcases argmin_pairwise hsorted hargmin hadmitted hrank with hsame | hlt
  · exact (congrArg Prod.fst hsame).ge
  · exact hlt.le

/-- A search through the derived values stops at the least key whose value passes. -/
theorem find?_values_eq_some {m : KeyedMap κ α} {f : α → β} {p : β → Bool} {b : β} :
    (m.values.map f).find? p = some b ↔ ∃ k a, m.find? k = some a ∧ f a = b ∧ p b = true ∧
      ∀ j c, j < k → m.find? j = some c → p (f c) = false := by
  rw [values, List.map_map, List.find?_map, Option.map_eq_some_iff]
  constructor
  · rintro ⟨⟨k, a⟩, hfind, rfl⟩
    obtain ⟨hp, before, after, hentries, hbefore⟩ := List.find?_eq_some_iff_append.mp hfind
    have hentry : (k, a) ∈ m.entries := by simp [hentries]
    refine ⟨k, a, mem_entries.mp hentry, rfl, hp, fun j c hj hc ↦ ?_⟩
    have hmem : (j, c) ∈ before ++ (k, a) :: after := hentries ▸ mem_entries.mpr hc
    have hsorted := hentries ▸ m.sorted
    rcases List.mem_append.mp hmem with hearlier | hlater
    · simpa using hbefore (j, c) hearlier
    · have hfollows := (List.pairwise_append.mp hsorted).2.1
      rcases List.mem_cons.mp hlater with hsame | hlater
      · exact absurd (congrArg Prod.fst hsame) hj.ne
      · exact absurd ((List.pairwise_cons.mp hfollows).1 _ hlater) hj.not_gt
  · rintro ⟨k, a, ha, rfl, hp, hfirst⟩
    refine ⟨(k, a), List.find?_eq_some_iff_append.mpr ⟨hp, ?_⟩, rfl⟩
    obtain ⟨before, after, hentries⟩ := List.append_of_mem (mem_entries.mpr ha)
    refine ⟨before, after, hentries, fun e he ↦ ?_⟩
    have hsorted := hentries ▸ m.sorted
    have hlt : e.1 < k := (List.pairwise_append.mp hsorted).2.2 e he _ List.mem_cons_self
    have hmem : e ∈ m.entries := by simp [hentries, he]
    simpa using hfirst e.1 e.2 hlt (mem_entries.mp hmem)

end KeyedMap
