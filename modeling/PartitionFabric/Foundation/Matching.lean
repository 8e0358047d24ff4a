import Mathlib.Data.Fintype.EquivFin
import Mathlib.Data.List.FinRange
import Mathlib.Data.List.Forall2
import Mathlib.Data.List.Perm.Basic
import Mathlib.Data.List.Perm.Subperm

/-!
Matchings of a list of demands into a list of supplies, and the search that gives each demand in
turn the first supply left that it admits. The search finds only matchings, and it misses one when
a demand is given what a later demand cannot do without.
-/

section Matching

variable {α β : Type*} (admits : α → β → Bool)

/-- Every demand has a supply of its own that it admits. -/
def Assignable (xs : List α) (ys : List β) : Prop :=
  ∃ f : Fin xs.length → Fin ys.length, Function.Injective f ∧
    ∀ i, admits (xs.get i) (ys.get (f i)) = true

/-- The demands and the supplies correspond one to one, each demand to a supply that it admits. -/
def Paired (xs : List α) (ys : List β) : Prop :=
  ∃ e : Fin xs.length ≃ Fin ys.length, ∀ i, admits (xs.get i) (ys.get (e i)) = true

/-- Gives each demand in turn the first supply that is left and that it admits. -/
def firstFit : List α → List β → Bool
  | [], _ => true
  | x :: xs, ys => ys.any (admits x) && firstFit xs (ys.eraseP (admits x))

/-- Whenever the demands from one on can be served, those after it still can once it has the first
supply that it admits. -/
def Unstarved : List α → List β → Prop
  | [], _ => True
  | x :: xs, ys => (Assignable admits (x :: xs) ys → Assignable admits xs (ys.eraseP (admits x)) ∧
      Unstarved xs (ys.eraseP (admits x)))

variable {admits} {x : α} {xs : List α} {ys : List β}

lemma paired_iff : Paired admits xs ys ↔ ys.length = xs.length ∧ Assignable admits xs ys := by
  constructor
  · rintro ⟨e, he⟩
    exact ⟨(Fin.equiv_iff_eq.mp ⟨e⟩).symm, e, e.injective, he⟩
  · rintro ⟨hlength, f, hf, hadmits⟩
    have hcard : Fintype.card (Fin xs.length) = Fintype.card (Fin ys.length) := by
      rw [Fintype.card_fin, Fintype.card_fin, hlength]
    exact ⟨.ofBijective f ((Fintype.bijective_iff_injective_and_card f).mpr ⟨hf, hcard⟩), hadmits⟩

/-- The supplies that the demands are given, in the order of the demands. -/
lemma assignable_iff_subperm : Assignable admits xs ys ↔
    ∃ zs, List.Forall₂ (fun x y ↦ admits x y = true) xs zs ∧ zs.Subperm ys := by
  constructor
  · rintro ⟨f, hf, hadmits⟩
    refine ⟨(List.ofFn f).map ys.get, ?_, ?_⟩
    · refine List.forall₂_iff_get.mpr ⟨by simp, fun i hi hi' ↦ ?_⟩
      simpa using hadmits ⟨i, hi⟩
    · have hsub : (List.ofFn f).Subperm (List.finRange ys.length) :=
        (List.nodup_ofFn.mpr hf).subperm fun i _ ↦ List.mem_finRange i
      obtain ⟨l, hperm, hsublist⟩ := hsub
      have hmap : (l.map ys.get).Sublist ((List.finRange ys.length).map ys.get) :=
        hsublist.map ys.get
      rw [List.map_get_finRange] at hmap
      exact ⟨l.map ys.get, hperm.map ys.get, hmap⟩
  · rintro ⟨zs, hadmits, l, hperm, hsublist⟩
    -- the positions of the supplies, listed in the order of the demands
    rw [← List.map_get_finRange ys] at hsublist
    obtain ⟨is, hpositions, rfl⟩ := List.sublist_map_iff.mp hsublist
    have hmap : List.Forall₂ (fun y i ↦ ys.get i = y) (is.map ys.get) is := by
      rw [List.forall₂_map_left_iff]
      exact List.forall₂_same.mpr fun _ _ ↦ rfl
    obtain ⟨js, hjs, hpermuted⟩ := List.perm_comp_forall₂ hperm.symm hmap
    have hnodup : js.Nodup :=
      hpermuted.nodup_iff.mpr ((List.nodup_finRange _).sublist hpositions)
    have hlength : xs.length = js.length := hadmits.length_eq.trans hjs.length_eq
    refine ⟨fun i ↦ js.get (i.cast hlength), fun i j hij ↦ ?_, fun i ↦ ?_⟩
    · simpa [Fin.ext_iff] using hnodup.injective_get hij
    · have hi : i.val < zs.length := hadmits.length_eq ▸ i.isLt
      have hz := (List.forall₂_iff_get.mp hadmits).2 i i.isLt hi
      have hj := (List.forall₂_iff_get.mp hjs).2 i hi (hlength ▸ i.isLt)
      rw [← hj] at hz
      exact hz

lemma assignable_cons (h : Assignable admits (x :: xs) ys) :
    ys.any (admits x) = true ∧ Assignable admits xs ys := by
  obtain ⟨zs, hadmits, hsub⟩ := assignable_iff_subperm.mp h
  cases hadmits with
  | @cons _ z _ zs hz hrest =>
      refine ⟨List.any_eq_true.mpr ⟨z, hsub.subset List.mem_cons_self, hz⟩, ?_⟩
      exact assignable_iff_subperm.mpr ⟨zs, hrest, List.subperm_cons_self.trans hsub⟩

lemma assignable_of_eraseP (hany : ys.any (admits x) = true)
    (h : Assignable admits xs (ys.eraseP (admits x))) : Assignable admits (x :: xs) ys := by
  obtain ⟨zs, hadmits, hsub⟩ := assignable_iff_subperm.mp h
  obtain ⟨y, hy, hadmitted⟩ := List.any_eq_true.mp hany
  obtain ⟨z, before, after, -, hz, hsplit, herase⟩ := List.exists_of_eraseP hy hadmitted
  refine assignable_iff_subperm.mpr ⟨z :: zs, .cons hz hadmits, ?_⟩
  rw [hsplit]
  rw [herase] at hsub
  exact ((List.subperm_cons z).mpr hsub).trans List.perm_middle.symm.subperm

/-- The search finds matchings only. -/
theorem assignable_of_firstFit (h : firstFit admits xs ys = true) : Assignable admits xs ys := by
  induction xs generalizing ys with
  | nil => exact assignable_iff_subperm.mpr ⟨[], .nil, List.nil_subperm⟩
  | cons x xs ih =>
      rw [firstFit, Bool.and_eq_true] at h
      exact assignable_of_eraseP h.1 (ih h.2)

/-- The search finds a matching whenever there is one exactly when no demand is given what a later
one cannot do without. -/
theorem firstFit_iff_assignable_iff :
    (firstFit admits xs ys = true ↔ Assignable admits xs ys) ↔ Unstarved admits xs ys := by
  induction xs generalizing ys with
  | nil =>
      refine iff_of_true (iff_of_true rfl ?_) trivial
      exact assignable_iff_subperm.mpr ⟨[], .nil, List.nil_subperm⟩
  | cons x xs ih =>
      rw [firstFit, Bool.and_eq_true]
      constructor
      · intro h hserved
        obtain ⟨-, hfits⟩ := h.mpr hserved
        have hrest := assignable_of_firstFit hfits
        exact ⟨hrest, ih.mp (iff_of_true hfits hrest)⟩
      · intro h
        refine ⟨fun hfits ↦ assignable_of_eraseP hfits.1 (assignable_of_firstFit hfits.2), ?_⟩
        intro hserved
        obtain ⟨hrest, hunstarved⟩ := h hserved
        exact ⟨(assignable_cons hserved).1, (ih.mpr hunstarved).mpr hrest⟩

/-- Of two demands that admit a supply in common, the later one admits whatever the earlier one
does. -/
def Widening (admits : α → β → Bool) (ys : List β) (x x' : α) : Prop :=
  (∃ y ∈ ys, admits x y = true ∧ admits x' y = true) →
    ∀ y ∈ ys, admits x y = true → admits x' y = true

/-- A matching can give a demand any supply that it admits, when the later demands only widen. -/
lemma assignable_exchange {y : β} {rest : List β} (hperm : ys.Perm (y :: rest))
    (hy : admits x y = true) (hwide : ∀ x' ∈ xs, Widening admits ys x x')
    (h : Assignable admits (x :: xs) ys) : Assignable admits xs rest := by
  obtain ⟨zs, hadmits, hsub⟩ := assignable_iff_subperm.mp h
  cases hadmits with
  | @cons _ z _ zs hz hrest =>
      have hz' : z ∈ ys := hsub.subset List.mem_cons_self
      have hy' : y ∈ ys := hperm.mem_iff.mpr List.mem_cons_self
      have hsub' : (z :: zs).Subperm (y :: rest) := hsub.trans hperm.subperm
      by_cases hmem : y ∈ zs
      · -- the demand that was served by the supply takes the one that it frees
        obtain ⟨before, after, rfl⟩ := List.append_of_mem hmem
        have ha := List.forall₂_take_append xs before (y :: after) hrest
        have hc := List.forall₂_drop_append xs before (y :: after) hrest
        have hxs := List.take_append_drop before.length xs
        generalize xs.take before.length = xa at ha hxs
        generalize xs.drop before.length = xc at hc hxs
        cases hc with
        | @cons x' _ xb _ hx' hb =>
            have hserves : admits x' z = true :=
              hwide x' (by simp [← hxs]) ⟨y, hy', hy, hx'⟩ z hz' hz
            rw [← hxs]
            refine assignable_iff_subperm.mpr ⟨before ++ z :: after,
              List.rel_append ha (.cons hserves hb), (List.subperm_cons y).mp ?_⟩
            have hswap : (y :: (before ++ z :: after)).Perm (z :: (before ++ y :: after)) :=
              ((List.perm_middle.cons y).trans (.swap z y _)).trans (List.perm_middle.symm.cons z)
            exact hswap.subperm.trans hsub'
      · refine assignable_iff_subperm.mpr ⟨zs, hrest, ?_⟩
        by_cases hsame : z = y
        · rw [hsame] at hsub'
          exact (List.subperm_cons y).mp hsub'
        · obtain ⟨l, hl, hsublist⟩ := List.subperm_cons_self.trans hsub'
          have hnot : y ∉ l := mt hl.mem_iff.mp hmem
          exact ⟨l, hl, (List.sublist_cons_iff.mp hsublist).resolve_right (by
            rintro ⟨r, rfl, -⟩
            exact hnot List.mem_cons_self)⟩

/-- Demands that widen never starve each other. -/
theorem unstarved_of_widening (h : xs.Pairwise (Widening admits ys)) : Unstarved admits xs ys := by
  induction xs generalizing ys with
  | nil => trivial
  | cons x xs ih =>
      obtain ⟨hwide, hrest⟩ := List.pairwise_cons.mp h
      intro hserved
      obtain ⟨y, hy, hadmitted⟩ := List.any_eq_true.mp (assignable_cons hserved).1
      obtain ⟨z, before, after, -, hz, hsplit, herase⟩ := List.exists_of_eraseP hy hadmitted
      rw [herase]
      refine ⟨assignable_exchange (hsplit ▸ List.perm_middle) hz hwide hserved, ih ?_⟩
      have hsubset : ∀ w ∈ before ++ after, w ∈ ys := by
        intro w hw
        rw [hsplit]
        rcases List.mem_append.mp hw with hw | hw
        · exact List.mem_append_left _ hw
        · exact List.mem_append_right _ (List.mem_cons_of_mem _ hw)
      refine hrest.imp fun hwidening hshared w hw ↦ ?_
      obtain ⟨v, hv, hboth⟩ := hshared
      exact hwidening ⟨v, hsubset v hv, hboth⟩ w (hsubset w hw)

end Matching
