import Mathlib.Algebra.BigOperators.Group.List.Basic
import Mathlib.Data.List.Sort
import Mathlib.Order.Basic

/-!
Finite maps with a canonical representation: association lists whose keys strictly increase.

Iteration follows the order of the keys, and two maps with the same lookups are equal.
-/

/-- An association list with strictly increasing keys. -/
structure KeyedMap (κ : Type*) (α : Type*) [LinearOrder κ] where
  entries : List (κ × α)
  sorted : entries.Pairwise (fun p q ↦ p.1 < q.1)

namespace KeyedMap

variable {κ α : Type*} [LinearOrder κ]

/-- Places a binding at the position of its key, replacing an earlier one. -/
def insertEntry (k : κ) (v : α) : List (κ × α) → List (κ × α)
  | [] => [(k, v)]
  | e :: rest =>
    if k < e.1 then (k, v) :: e :: rest
    else if k = e.1 then (k, v) :: rest
    else e :: insertEntry k v rest

lemma mem_insertEntry {k : κ} {v : α} {l : List (κ × α)} {e : κ × α}
    (h : e ∈ insertEntry k v l) : e = (k, v) ∨ e ∈ l := by
  induction l with
  | nil => exact Or.inl (by simpa [insertEntry] using h)
  | cons d rest ih =>
      unfold insertEntry at h
      split at h
      · simpa using h
      · split at h
        · rcases List.mem_cons.mp h with h | h
          · exact Or.inl h
          · exact Or.inr (List.mem_cons_of_mem _ h)
        · rcases List.mem_cons.mp h with h | h
          · exact Or.inr (by simp [h])
          · exact (ih h).imp id (List.mem_cons_of_mem _)

lemma insertEntry_sorted (k : κ) (v : α) (l : List (κ × α))
    (h : l.Pairwise (fun p q ↦ p.1 < q.1)) :
    (insertEntry k v l).Pairwise (fun p q ↦ p.1 < q.1) := by
  induction l with
  | nil => simp [insertEntry]
  | cons d rest ih =>
      obtain ⟨hd, hrest⟩ := List.pairwise_cons.mp h
      unfold insertEntry
      split_ifs with hlt heq
      · refine List.pairwise_cons.mpr ⟨fun e he ↦ ?_, h⟩
        rcases List.mem_cons.mp he with rfl | he
        · exact hlt
        · exact hlt.trans (hd e he)
      · exact List.pairwise_cons.mpr ⟨fun e he ↦ heq ▸ hd e he, hrest⟩
      · refine List.pairwise_cons.mpr ⟨fun e he ↦ ?_, ih hrest⟩
        rcases mem_insertEntry he with rfl | he
        · exact lt_of_le_of_ne (not_lt.mp hlt) (Ne.symm heq)
        · exact hd e he

/-- The map without bindings. -/
def empty : KeyedMap κ α := ⟨[], List.Pairwise.nil⟩

instance : EmptyCollection (KeyedMap κ α) := ⟨empty⟩
instance : Inhabited (KeyedMap κ α) := ⟨empty⟩

/-- The value bound to a key. -/
def find? (m : KeyedMap κ α) (k : κ) : Option α :=
  (m.entries.find? (fun e ↦ e.1 = k)).map Prod.snd

/-- Binds a key, replacing its earlier value. -/
def insert (m : KeyedMap κ α) (k : κ) (v : α) : KeyedMap κ α :=
  ⟨insertEntry k v m.entries, insertEntry_sorted k v m.entries m.sorted⟩

/-- Removes every binding rejected by a test. -/
def filter (m : KeyedMap κ α) (keep : κ → α → Bool) : KeyedMap κ α :=
  ⟨m.entries.filter (fun e ↦ keep e.1 e.2), m.sorted.filter _⟩

/-- Removes the binding of a key. -/
def erase (m : KeyedMap κ α) (k : κ) : KeyedMap κ α := m.filter (fun j _ ↦ j ≠ k)

/-- Rewrites the value bound to a key; an unbound key stays unbound. -/
def modify (m : KeyedMap κ α) (k : κ) (f : α → α) : KeyedMap κ α :=
  match m.find? k with
  | some v => m.insert k (f v)
  | none => m

/-- Drops matching entries from the front until a number of them is gone. -/
def dropMatching (p : α → Bool) : ℕ → List (κ × α) → List (κ × α)
  | 0, l => l
  | _ + 1, [] => []
  | n + 1, e :: rest =>
    if p e.2 then dropMatching p n rest else e :: dropMatching p (n + 1) rest

omit [LinearOrder κ] in
lemma dropMatching_sublist (p : α → Bool) (n : ℕ) (l : List (κ × α)) :
    (dropMatching p n l).Sublist l := by
  induction l generalizing n with
  | nil => cases n <;> exact List.Sublist.refl _
  | cons e rest ih =>
      cases n with
      | zero => exact List.Sublist.refl _
      | succ n =>
          unfold dropMatching
          split
          · exact (ih n).cons e
          · exact (ih (n + 1)).cons_cons e

/-- Erases matching bindings in the order of their keys until a size is reached. -/
def prune (m : KeyedMap κ α) (p : α → Bool) (bound : ℕ) : KeyedMap κ α :=
  ⟨dropMatching p (m.entries.length - bound) m.entries,
    m.sorted.sublist (dropMatching_sublist p _ _)⟩

/-- The keys in increasing order. -/
def keys (m : KeyedMap κ α) : List κ := m.entries.map Prod.fst

/-- The values in the order of their keys. -/
def values (m : KeyedMap κ α) : List α := m.entries.map Prod.snd

/-- The number of bindings. -/
def size (m : KeyedMap κ α) : ℕ := m.entries.length

/-- Whether a key is bound. -/
def contains (m : KeyedMap κ α) (k : κ) : Bool := (m.find? k).isSome

@[simp] lemma find?_empty (k : κ) : (∅ : KeyedMap κ α).find? k = none := rfl

lemma find?_eq_some_iff_mem {m : KeyedMap κ α} {k : κ} {v : α} :
    m.find? k = some v ↔ (k, v) ∈ m.entries := by
  obtain ⟨l, hl⟩ := m
  induction l with
  | nil => simp [find?]
  | cons d rest ih =>
      obtain ⟨hd, hrest⟩ := List.pairwise_cons.mp hl
      have ih' := ih hrest
      simp only [find?] at ih' ⊢
      by_cases hk : d.1 = k
      · have hnot : ∀ w, (k, w) ∉ rest := fun w hw ↦ absurd (hd _ hw) (by simp [hk])
        rw [List.find?_cons_of_pos (by simpa using hk), Option.map_some, List.mem_cons]
        constructor
        · rintro h
          exact Or.inl (Prod.ext hk.symm (Option.some.inj h).symm)
        · rintro (h | h)
          · simp [← h]
          · exact absurd h (hnot v)
      · rw [List.find?_cons_of_neg (by simpa using hk), ih', List.mem_cons]
        constructor
        · exact Or.inr
        · rintro (h | h)
          · exact absurd (by simp [← h]) hk
          · exact h

lemma find?_insertEntry (k j : κ) (v : α) (l : List (κ × α)) :
    ((insertEntry k v l).find? (fun e ↦ e.1 = j)).map Prod.snd =
      if j = k then some v else (l.find? (fun e ↦ e.1 = j)).map Prod.snd := by
  induction l with
  | nil => by_cases h : j = k <;> simp [insertEntry, h, eq_comm]
  | cons d rest ih =>
      unfold insertEntry
      by_cases hjk : j = k
      · rw [if_pos hjk] at ih ⊢
        split_ifs with hlt heq
        · simp [hjk]
        · simp [hjk]
        · have hd : ¬ d.1 = j := fun h ↦ heq (by rw [h, hjk])
          rw [List.find?_cons_of_neg (by simpa using hd), ih]
      · rw [if_neg hjk] at ih ⊢
        split_ifs with hlt heq
        · rw [List.find?_cons_of_neg (by simpa using Ne.symm hjk)]
        · rw [List.find?_cons_of_neg (by simpa using Ne.symm hjk),
            List.find?_cons_of_neg (by simpa [← heq] using Ne.symm hjk)]
        · by_cases hd : d.1 = j
          · simp [hd]
          · rw [List.find?_cons_of_neg (by simpa using hd),
              List.find?_cons_of_neg (by simpa using hd), ih]

lemma find?_insert (m : KeyedMap κ α) (k j : κ) (v : α) :
    (m.insert k v).find? j = if j = k then some v else m.find? j :=
  find?_insertEntry k j v m.entries

@[simp] lemma find?_insert_self (m : KeyedMap κ α) (k : κ) (v : α) :
    (m.insert k v).find? k = some v := by
  rw [find?_insert, if_pos rfl]

lemma find?_insert_of_ne (m : KeyedMap κ α) {k j : κ} (v : α) (h : j ≠ k) :
    (m.insert k v).find? j = m.find? j := by
  rw [find?_insert, if_neg h]

lemma find?_filter (m : KeyedMap κ α) (keep : κ → α → Bool) (j : κ) :
    (m.filter keep).find? j = (m.find? j).filter (keep j) := by
  apply Option.ext
  intro v
  rw [find?_eq_some_iff_mem]
  simp only [filter, List.mem_filter, Option.filter_eq_some_iff, find?_eq_some_iff_mem]

lemma find?_erase (m : KeyedMap κ α) (k j : κ) :
    (m.erase k).find? j = if j = k then none else m.find? j := by
  rw [erase, find?_filter]
  by_cases h : j = k <;> cases m.find? j <;> simp [h]

lemma find?_modify (m : KeyedMap κ α) (k j : κ) (f : α → α) :
    (m.modify k f).find? j = if j = k then (m.find? j).map f else m.find? j := by
  unfold modify
  cases h : m.find? k with
  | none =>
      by_cases hj : j = k
      · simp [hj, h]
      · simp [hj]
  | some v =>
      rw [find?_insert]
      by_cases hj : j = k
      · simp [hj, h]
      · simp [hj]

lemma find?_modify_of_ne (m : KeyedMap κ α) {k j : κ} (f : α → α) (h : j ≠ k) :
    (m.modify k f).find? j = m.find? j := by
  rw [find?_modify, if_neg h]

lemma mem_keys {m : KeyedMap κ α} {k : κ} : k ∈ m.keys ↔ ∃ v, m.find? k = some v := by
  simp only [keys, List.mem_map, find?_eq_some_iff_mem, Prod.exists]
  constructor
  · rintro ⟨_, v, h, rfl⟩
    exact ⟨v, h⟩
  · rintro ⟨v, h⟩
    exact ⟨k, v, h, rfl⟩

lemma keys_nodup (m : KeyedMap κ α) : m.keys.Nodup := by
  rw [keys, List.Nodup, List.pairwise_map]
  exact m.sorted.imp fun h ↦ ne_of_lt h

lemma mem_values {m : KeyedMap κ α} {v : α} : v ∈ m.values ↔ ∃ k, m.find? k = some v := by
  simp only [values, List.mem_map, find?_eq_some_iff_mem, Prod.exists]
  constructor
  · rintro ⟨k, _, h, rfl⟩
    exact ⟨k, h⟩
  · rintro ⟨k, h⟩
    exact ⟨k, v, h, rfl⟩

/-- Values that name their own keys. -/
lemma map_values_eq_keys {m : KeyedMap κ α} {f : α → κ}
    (h : ∀ k v, m.find? k = some v → f v = k) : m.values.map f = m.keys := by
  unfold values keys
  rw [List.map_map]
  exact List.map_congr_left fun e he ↦ h e.1 e.2 (find?_eq_some_iff_mem.mpr he)

/-- Without the values that a test rejects, the values are those that it accepts. -/
lemma values_filter (m : KeyedMap κ α) (p : α → Bool) :
    (m.filter fun _ v ↦ p v).values = m.values.filter p := by
  unfold values filter
  rw [List.filter_map]
  rfl

/-- A map is determined by its lookups. -/
theorem ext_find? {m m' : KeyedMap κ α} (h : ∀ k, m.find? k = m'.find? k) : m = m' := by
  have hmem : ∀ e, e ∈ m.entries ↔ e ∈ m'.entries := by
    rintro ⟨k, v⟩
    rw [← find?_eq_some_iff_mem, ← find?_eq_some_iff_mem, h k]
  have hnodup (n : KeyedMap κ α) : n.entries.Nodup :=
    n.sorted.imp fun {a b} hab heq ↦ absurd hab (by simp [heq])
  have hperm : m.entries.Perm m'.entries :=
    (List.perm_ext_iff_of_nodup (hnodup m) (hnodup m')).mpr hmem
  have hasymm : ∀ a b : κ × α, a ∈ m.entries → b ∈ m'.entries →
      a.1 < b.1 → b.1 < a.1 → a = b := fun a b _ _ hab hba ↦ absurd hab hba.asymm
  have heq : m.entries = m'.entries := hperm.eq_of_pairwise hasymm m.sorted m'.sorted
  cases m
  cases m'
  simpa using heq

/-- The value of a bound key is set apart from those of the other keys. -/
lemma values_perm {m : KeyedMap κ α} {k : κ} {v : α} (h : m.find? k = some v) :
    m.values.Perm (v :: (m.erase k).values) := by
  have hnodup (n : KeyedMap κ α) : n.entries.Nodup :=
    n.sorted.imp fun {a b} hab heq ↦ absurd hab (by simp [heq])
  have hfresh : (k, v) ∉ (m.erase k).entries := by
    rw [← find?_eq_some_iff_mem, find?_erase, if_pos rfl]
    simp
  have hperm : m.entries.Perm ((k, v) :: (m.erase k).entries) := by
    refine (List.perm_ext_iff_of_nodup (hnodup m)
      (List.nodup_cons.mpr ⟨hfresh, hnodup _⟩)).mpr ?_
    rintro ⟨j, w⟩
    rw [List.mem_cons, ← find?_eq_some_iff_mem, ← find?_eq_some_iff_mem, find?_erase]
    by_cases hj : j = k
    · subst hj
      simp [h, eq_comm]
    · simp [hj]
  exact hperm.map Prod.snd

lemma erase_insert (m : KeyedMap κ α) (k : κ) (v : α) : (m.insert k v).erase k = m.erase k := by
  refine ext_find? fun j ↦ ?_
  rw [find?_erase, find?_erase, find?_insert]
  split <;> rfl

lemma erase_modify (m : KeyedMap κ α) (k : κ) (f : α → α) :
    (m.modify k f).erase k = m.erase k := by
  refine ext_find? fun j ↦ ?_
  rw [find?_erase, find?_erase, find?_modify]
  split <;> rfl

/-- Rebinding a key to its own value changes nothing. -/
lemma insert_eq_self {m : KeyedMap κ α} {k : κ} {v : α} (h : m.find? k = some v) :
    m.insert k v = m := by
  refine ext_find? fun j ↦ ?_
  rw [find?_insert]
  by_cases hj : j = k
  · rw [if_pos hj, hj, h]
  · rw [if_neg hj]

lemma erase_eq_self {m : KeyedMap κ α} {k : κ} (h : m.find? k = none) : m.erase k = m := by
  refine ext_find? fun j ↦ ?_
  rw [find?_erase]
  split
  · rename_i hj
    rw [hj, h]
  · rfl

/-- The size grows by a binding exactly when its key is new. -/
lemma size_insert (m : KeyedMap κ α) (k : κ) (v : α) :
    (m.insert k v).size = m.size + 1 ↔ m.find? k = none := by
  have hsize (n : KeyedMap κ α) : n.size = n.values.length := by simp [size, values]
  have hafter := (values_perm (find?_insert_self m k v)).length_eq
  rw [erase_insert, List.length_cons] at hafter
  rw [hsize, hsize, hafter]
  cases h : m.find? k with
  | none => simp [erase_eq_self h]
  | some w =>
    have hbefore := (values_perm h).length_eq
    rw [List.length_cons] at hbefore
    simp [hbefore]

omit [LinearOrder κ] in
lemma mem_dropMatching {p : α → Bool} {n : ℕ} {l : List (κ × α)} {e : κ × α} (he : e ∈ l) :
    e ∈ dropMatching p n l ∨ p e.2 = true := by
  induction l generalizing n with
  | nil => exact absurd he (by simp)
  | cons d rest ih =>
      cases n with
      | zero => exact Or.inl he
      | succ n =>
          unfold dropMatching
          rcases List.mem_cons.mp he with rfl | he
          · split
            · exact Or.inr ‹_›
            · exact Or.inl List.mem_cons_self
          · split
            · exact ih he
            · exact (ih he).imp (List.mem_cons_of_mem _) id

/-- Pruning keeps bindings as they are and loses only matching ones. -/
theorem find?_prune {m : KeyedMap κ α} (p : α → Bool) (bound : ℕ) (k : κ) :
    (m.prune p bound).find? k = m.find? k ∨
      (m.prune p bound).find? k = none ∧ ∃ v, m.find? k = some v ∧ p v = true := by
  have hsub : ∀ v, (m.prune p bound).find? k = some v → m.find? k = some v := fun v h ↦ by
    rw [find?_eq_some_iff_mem] at h ⊢
    exact (dropMatching_sublist p _ _).subset h
  cases hm : m.find? k with
  | none =>
      refine Or.inl (Option.eq_none_iff_forall_ne_some.mpr fun v hv ↦ ?_)
      exact absurd (hsub v hv) (by simp [hm])
  | some v =>
      have hmem := find?_eq_some_iff_mem.mp hm
      rcases mem_dropMatching (p := p) (n := m.entries.length - bound) hmem with h | h
      · exact Or.inl (find?_eq_some_iff_mem.mpr h)
      · cases hp : (m.prune p bound).find? k with
        | none => exact Or.inr ⟨rfl, v, rfl, h⟩
        | some w => exact Or.inl (by rw [← hm, ← hsub w hp])

omit [LinearOrder κ] in
lemma length_dropMatching (p : α → Bool) (n : ℕ) (l : List (κ × α)) :
    l.length ≤ (dropMatching p n l).length + n := by
  induction l generalizing n with
  | nil => exact Nat.zero_le _
  | cons e rest ih =>
      cases n with
      | zero => exact le_refl _
      | succ n =>
          unfold dropMatching
          split
          · have := ih n
            simp only [List.length_cons]
            omega
          · have := ih (n + 1)
            simp only [List.length_cons]
            omega

/-- Pruning never goes below its bound. -/
theorem le_size_prune {m : KeyedMap κ α} {bound : ℕ} (p : α → Bool) (h : bound ≤ m.size) :
    bound ≤ (m.prune p bound).size := by
  have := length_dropMatching p (m.entries.length - bound) m.entries
  unfold size prune at *
  simp only
  omega

/-- Every key lies below a bound. -/
def Below (m : KeyedMap κ α) (n : κ) : Prop := ∀ k v, m.find? k = some v → k < n

lemma Below.mono {m : KeyedMap κ α} {n n' : κ} (h : m.Below n) (hle : n ≤ n') : m.Below n' :=
  fun k v hv ↦ lt_of_lt_of_le (h k v hv) hle

/-- A map whose keys all occur in another one is bounded with it. -/
lemma Below.of_keys {m : KeyedMap κ α} {β : Type*} {m' : KeyedMap κ β} {n : κ} (h : m.Below n)
    (hsub : ∀ k w, m'.find? k = some w → ∃ v, m.find? k = some v) : m'.Below n := by
  intro k w hw
  obtain ⟨v, hv⟩ := hsub k w hw
  exact h k v hv

lemma Below.insert {m : KeyedMap κ α} {n k : κ} (h : m.Below n) (hk : k < n) (v : α) :
    (m.insert k v).Below n := by
  intro j w hw
  rw [find?_insert] at hw
  split at hw
  · rename_i hj
    exact hj ▸ hk
  · exact h j w hw

lemma Below.modify {m : KeyedMap κ α} {n k : κ} (h : m.Below n) (f : α → α) :
    (m.modify k f).Below n := by
  refine h.of_keys fun j w hw ↦ ?_
  rw [find?_modify] at hw
  split at hw
  · obtain ⟨v, hv, -⟩ := Option.map_eq_some_iff.mp hw
    exact ⟨v, hv⟩
  · exact ⟨w, hw⟩

lemma below_empty (n : κ) : (∅ : KeyedMap κ α).Below n := by
  intro k v hv
  cases hv

/-- A lookup after a list of insertions finds what one of them stored, or what was there. -/
lemma find?_foldl_insert {β : Type*} {key : β → κ} {value : β → α} {l : List β}
    {m : KeyedMap κ α} {k : κ} {v : α}
    (h : (l.foldl (fun m x ↦ m.insert (key x) (value x)) m).find? k = some v) :
    (∃ x ∈ l, key x = k ∧ value x = v) ∨ m.find? k = some v := by
  induction l generalizing m with
  | nil => exact Or.inr h
  | cons x rest ih =>
      rcases ih h with ⟨y, hy, hkey⟩ | hm
      · exact Or.inl ⟨y, List.mem_cons_of_mem _ hy, hkey⟩
      · rw [find?_insert] at hm
        split at hm
        · rename_i hk
          exact Or.inl ⟨x, List.mem_cons_self, hk.symm, Option.some.inj hm⟩
        · exact Or.inr hm

lemma exists_foldl_insert {β : Type*} {key : β → κ} {value : β → α} {l : List β}
    {m : KeyedMap κ α} {k : κ} (h : (∃ x ∈ l, key x = k) ∨ ∃ v, m.find? k = some v) :
    ∃ v, (l.foldl (fun m x ↦ m.insert (key x) (value x)) m).find? k = some v := by
  induction l generalizing m with
  | nil => exact h.resolve_left (by simp)
  | cons x rest ih =>
      refine ih ?_
      by_cases hk : k = key x
      · subst hk
        exact Or.inr ⟨value x, find?_insert_self m _ _⟩
      · rw [find?_insert_of_ne m _ hk]
        refine h.imp_left ?_
        rintro ⟨y, hy, rfl⟩
        rcases List.mem_cons.mp hy with rfl | hy
        · exact absurd rfl hk
        · exact ⟨y, hy, rfl⟩

end KeyedMap
