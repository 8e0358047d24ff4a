import PartitionFabric.Invariants.AttemptAtomicity

/-!
What a commit has done: its rounds bring one partition after the other to a state, each where the
transition is legal and the capacity can follow, and whatever comes of it the mutation is committed.
-/

namespace PartitionFabric

open Procedure

variable {s t u : FabricState} {target : PartitionState} {now : UInt64}

abbrev Ledgers := KeyedMap AcceleratorId CapacityLedger

section Following

/-- A record can be brought to a state, and this leaves those ledgers. -/
def PartitionRecord.Follows (target : PartitionState) (r : PartitionRecord)
    (ledgers ledgers' : Ledgers) : Prop :=
  r.state = target ∧ ledgers' = ledgers ∨
    r.state ≠ target ∧ Allowed r.state target ∧ ∃ l l' held,
      ledgers.find? r.accelerator = some l ∧ CapacityFollows target r l l' held ∧
        ledgers' = ledgers.insert r.accelerator l'

/-- Two records that transitions treat alike. -/
structure PartitionRecord.Alike (r r' : PartitionRecord) : Prop where
  accelerator : r'.accelerator = r.accelerator
  resources : r'.resources = r.resources
  state : r'.state = r.state
  held : r'.heldBucket = r.heldBucket

lemma PartitionRecord.Alike.follows {r r' : PartitionRecord} {m m' : Ledgers} (h : r.Alike r') :
    r'.Follows target m m' ↔ r.Follows target m m' := by
  unfold PartitionRecord.Follows CapacityFollows
  rw [h.accelerator, h.resources, h.state, h.held]

/-- The buckets hold no more than before, but for one that has no more room. -/
structure CapacityLedger.Tighter (full : CapacityBucket) (l l' : CapacityLedger) : Prop where
  mask : ∀ b, (l'.buckets b).mask = (l.buckets b).mask
  sources : ∀ b, b ≠ full → ∀ d, (l'.buckets b).amount d ≤ (l.buckets b).amount d
  room : ∀ d, (l.buckets full).amount d ≤ (l'.buckets full).amount d

lemma CapacityLedger.Tighter.refl (full : CapacityBucket) (l : CapacityLedger) :
    l.Tighter full l :=
  ⟨fun _ ↦ rfl, fun _ _ _ ↦ le_refl _, fun _ ↦ le_refl _⟩

lemma CapacityLedger.Moved.tighter {b c : CapacityBucket} {amount : ResourceVector}
    {l l' : CapacityLedger} (h : CapacityLedger.Moved b c amount l l') : l.Tighter c l' := by
  refine ⟨h.mask, fun e he d ↦ ?_, fun d ↦ ?_⟩
  · by_cases hb : e = b
    · have htaken := h.taken d
      rw [hb]
      omega
    · rw [h.other e hb he]
  · have hadded := h.added d
    omega

/-- What can be moved later could be moved before. -/
lemma CapacityLedger.Tighter.canMove {b full : CapacityBucket} {amount : ResourceVector}
    {l l' : CapacityLedger} (h : l.Tighter full l') (hne : b ≠ full)
    (hmove : l'.CanMove b full amount) : l.CanMove b full amount := by
  have hhas (c : CapacityBucket) (d : ResourceDimension) :
      (l'.buckets c).has d = (l.buckets c).has d := by
    simp [ResourceVector.has, h.mask c]
  refine ⟨ResourceVector.isSubsetOf_iff.mpr fun d hd ↦ ?_, ?_, ?_, fun d hd ↦ ?_⟩
  · obtain ⟨hb, hle⟩ := ResourceVector.isSubsetOf_iff.mp hmove.covered d hd
    have hb' := (hhas b d).symm.trans hb
    have hless := h.sources b hne d
    rw [ResourceVector.amount_of_has hb, ResourceVector.amount_of_has hb'] at hless
    exact ⟨hb', hle.trans (UInt64.le_iff_toNat_le.mpr hless)⟩
  · rw [← h.mask b]
    exact hmove.given
  · rw [← h.mask full]
    exact hmove.carried
  · have hroom := h.room d
    obtain ⟨hfits, hshare⟩ := hmove.fits d hd
    have hvalue : ((l.buckets full).values d).toNat ≤ ((l'.buckets full).values d).toNat := by
      have hfull := hasBit_of_subset hmove.carried hd
      rw [← ResourceVector.amount_of_has hfull,
        ← ResourceVector.amount_of_has ((hhas full d).symm.trans hfull)]
      exact hroom
    exact ⟨by omega, fun hs ↦ by have := hshare hs; omega⟩

/-- The bucket that capacity is in at a state; no bucket stands for free capacity. -/
def PartitionState.destination (target : PartitionState) : CapacityBucket :=
  (bucketForState target).getD .free

lemma CapacityFollows.tighter {r : PartitionRecord} {l l' : CapacityLedger}
    {held : Option CapacityBucket} (h : CapacityFollows target r l l' held) :
    l.Tighter target.destination l' := by
  rcases h with ⟨-, rfl, -⟩ | ⟨-, -, hmove⟩
  · exact .refl _ l'
  · rcases CapacityLedger.moveBetween_cases (r.heldBucket.getD .free).raw
      ((bucketForState target).getD .free).raw r.resources l with
      ⟨b, c, m, -, -, hc, hrun, hmoved⟩ | ⟨hrun, -⟩ | ⟨e, hrun⟩
    · obtain rfl := (Prod.mk.inj (hmove.symm.trans hrun)).1
      rw [CapacityBucket.ofRaw?_raw] at hc
      obtain rfl := Option.some.inj hc
      exact hmoved.tighter
    · obtain rfl := (Prod.mk.inj (hmove.symm.trans hrun)).1
      exact .refl _ l'
    · cases (Prod.mk.inj (hmove.symm.trans hrun)).2

/-- Capacity that can follow a record later could follow it before. -/
lemma CapacityLedger.Tighter.funded {r : PartitionRecord} {l l' : CapacityLedger}
    (h : l.Tighter target.destination l') (hfunded : r.Funded target l') : r.Funded target l := by
  rcases hfunded with hkeeps | hsame | hmove
  · exact Or.inl hkeeps
  · exact Or.inr (Or.inl hsame)
  · by_cases hsame : r.heldBucket.getD .free = target.destination
    · exact Or.inr (Or.inl hsame)
    · exact Or.inr (Or.inr (h.canMove hsame hmove))

/-- Capacity follows a record wherever it can. -/
lemma PartitionRecord.Funded.follows {r : PartitionRecord} {l : CapacityLedger}
    (h : r.Funded target l) : ∃ l' held, CapacityFollows target r l l' held := by
  obtain ⟨l', r', hrun⟩ := h.moves
  rcases applyCapacityTransition_cases target l r with ⟨e, herror⟩ | ⟨m, held, hfollows, -⟩
  · cases (Prod.mk.inj (hrun.symm.trans herror)).2
  · exact ⟨m, held, hfollows⟩

/-- What a record follows with is determined. -/
lemma PartitionRecord.Follows.unique {r : PartitionRecord} {m m' n' : Ledgers}
    (h : r.Follows target m m') (h' : r.Follows target m n') : m' = n' := by
  rcases h with ⟨hthere, rfl⟩ | ⟨hne, -, l, l', held, hl, hcapacity, rfl⟩
  · rcases h' with ⟨-, rfl⟩ | ⟨hne, -⟩
    · rfl
    · exact absurd hthere hne
  · rcases h' with ⟨hthere, -⟩ | ⟨-, -, k, k', held', hk, hcapacity', rfl⟩
    · exact absurd hthere hne
    · obtain rfl := Option.some.inj (hl.symm.trans hk)
      rw [hcapacity.unique hcapacity']

/-- Every ledger is as it was, or tighter. -/
def TighterAt (target : PartitionState) (ledgers ledgers' : Ledgers) : Prop :=
  ∀ a l', ledgers'.find? a = some l' → ∃ l, ledgers.find? a = some l ∧
    l.Tighter target.destination l'

lemma PartitionRecord.Follows.tighter {r : PartitionRecord} {m m' : Ledgers}
    (h : r.Follows target m m') : TighterAt target m m' := by
  rcases h with ⟨-, rfl⟩ | ⟨-, -, l, l', held, hl, hfollows, rfl⟩
  · exact fun a l' hl' ↦ ⟨l', hl', .refl _ l'⟩
  · intro a n hn
    by_cases ha : a = r.accelerator
    · rw [ha, KeyedMap.find?_insert_self] at hn
      obtain rfl := Option.some.inj hn
      exact ⟨l, ha ▸ hl, hfollows.tighter⟩
    · rw [KeyedMap.find?_insert_of_ne _ _ ha] at hn
      exact ⟨n, hn, .refl _ n⟩

lemma TighterAt.follows {r : PartitionRecord} {m m' n' : Ledgers} (h : TighterAt target m m')
    (hfollows : r.Follows target m' n') : ∃ n, r.Follows target m n := by
  rcases hfollows with ⟨hthere, -⟩ | ⟨hne, hallowed, l', _, held, hl', hcapacity, -⟩
  · exact ⟨m, Or.inl ⟨hthere, rfl⟩⟩
  · obtain ⟨l, hl, htighter⟩ := h _ l' hl'
    obtain ⟨k, held', hcapacity'⟩ := (htighter.funded hcapacity.funded).follows
    exact ⟨_, Or.inr ⟨hne, hallowed, l, k, held', hl, hcapacity', rfl⟩⟩

end Following

section Rounds

/-- One round of a commit: the partition under a key is brought to a state where that can be, and
may be named after an observed one. -/
structure Round (target : PartitionState) (p : PartitionId) (name : Option Text)
    (s t : FabricState) : Prop where
  others : ∀ q, q ≠ p → t.findPartition q = s.findPartition q
  missing : s.findPartition p = none → t.findPartition p = none ∧ t.ledgers = s.ledgers
  found : ∀ r, s.findPartition p = some r → ∃ r', t.findPartition p = some r' ∧
    r'.nativeIdentity.nativeId = name.getD r.nativeIdentity.nativeId ∧
      (r.Follows target s.ledgers t.ledgers ∧ r'.state = target ∨
        (∀ m, ¬ r.Follows target s.ledgers m) ∧ t.ledgers = s.ledgers ∧ r.Alike r')

/-- The rounds of a commit, one after the other. -/
def Rounds (target : PartitionState) : List (PartitionId × Option Text) → FabricState →
    FabricState → Prop
  | [], s, t => t = s
  | v :: rest, s, t => ∃ u, Round target v.1 v.2 s u ∧ Rounds target rest u t

/-- The partition under a key is in a state. -/
def FabricState.InState (s : FabricState) (p : PartitionId) (target : PartitionState) : Prop :=
  ∃ r, s.findPartition p = some r ∧ r.state = target

/-- The partition under a key is not in a state and cannot be brought there. -/
def FabricState.Stuck (s : FabricState) (p : PartitionId) (target : PartitionState) : Prop :=
  ∀ r, s.findPartition p = some r → ∀ m, ¬ r.Follows target s.ledgers m

variable {p q : PartitionId} {name : Option Text}

lemma Round.inState (h : Round target q name s t) (hs : s.InState p target) :
    t.InState p target := by
  obtain ⟨r, hr, hthere⟩ := hs
  by_cases hpq : p = q
  · subst hpq
    obtain ⟨r', hr', -, ⟨-, hstate⟩ | ⟨hstuck, -⟩⟩ := h.found r hr
    · exact ⟨r', hr', hstate⟩
    · exact absurd (Or.inl ⟨hthere, rfl⟩) (hstuck s.ledgers)
  · exact ⟨r, (h.others p hpq).trans hr, hthere⟩

lemma Round.tighter (h : Round target q name s t) : TighterAt target s.ledgers t.ledgers := by
  have hsame (heq : t.ledgers = s.ledgers) : TighterAt target s.ledgers t.ledgers := by
    rw [heq]
    exact fun a l' hl' ↦ ⟨l', hl', .refl _ l'⟩
  cases hq : s.findPartition q with
  | none => exact hsame (h.missing hq).2
  | some r =>
    obtain ⟨r', -, -, ⟨hfollows, -⟩ | ⟨-, heq, -⟩⟩ := h.found r hq
    · exact hfollows.tighter
    · exact hsame heq

/-- What cannot be brought to a state never gets there. -/
lemma Round.stuck (h : Round target q name s t) (hs : s.Stuck p target) : t.Stuck p target := by
  intro r' hr' m hfollows
  obtain ⟨n, hn⟩ := h.tighter.follows hfollows
  by_cases hpq : p = q
  · subst hpq
    cases hp : s.findPartition p with
    | none =>
      rw [(h.missing hp).1] at hr'
      cases hr'
    | some r =>
      obtain ⟨r'', hr'', -, ⟨hreached, -⟩ | ⟨hstuck, -, halike⟩⟩ := h.found r hp
      · exact hs r hp _ hreached
      · obtain rfl := Option.some.inj (hr'.symm.trans hr'')
        exact hstuck n (halike.follows.mp hn)
  · rw [h.others p hpq] at hr'
    exact hs r' hr' n hn

lemma Rounds.inState {visits : List (PartitionId × Option Text)} (h : Rounds target visits s t)
    (hs : s.InState p target) : t.InState p target := by
  induction visits generalizing s with
  | nil => exact (show t = s from h) ▸ hs
  | cons v rest ih =>
    obtain ⟨u, hround, hrest⟩ := h
    exact ih hrest (hround.inState hs)

lemma Rounds.stuck {visits : List (PartitionId × Option Text)} (h : Rounds target visits s t)
    (hs : s.Stuck p target) : t.Stuck p target := by
  induction visits generalizing s with
  | nil => exact (show t = s from h) ▸ hs
  | cons v rest ih =>
    obtain ⟨u, hround, hrest⟩ := h
    exact ih hrest (hround.stuck hs)

/-- Rounds record no partition. -/
lemma Rounds.recorded {visits : List (PartitionId × Option Text)} (h : Rounds target visits s t)
    (ht : t.InState p target) : ∃ r, s.findPartition p = some r := by
  induction visits generalizing s with
  | nil =>
    obtain ⟨r, hr, -⟩ := ht
    exact ⟨r, (show t = s from h) ▸ hr⟩
  | cons v rest ih =>
    obtain ⟨u, hround, hrest⟩ := h
    obtain ⟨r, hr⟩ := ih hrest
    by_cases hp : p = v.1
    · subst hp
      cases hs : s.findPartition v.1 with
      | none =>
        rw [(hround.missing hs).1] at hr
        cases hr
      | some k => exact ⟨k, rfl⟩
    · exact ⟨r, (hround.others p hp).symm.trans hr⟩

/-- The partitions can be brought to a state one after the other, each of them once: the ledgers
carry it. -/
def Carries (target : PartitionState) (s : FabricState) : List PartitionId → List PartitionId →
    Ledgers → Prop
  | _, [], _ => True
  | done, p :: rest, ledgers => (p ∈ done ∧ Carries target s done rest ledgers) ∨
      p ∉ done ∧ ∃ r ledgers', s.findPartition p = some r ∧ r.Follows target ledgers ledgers' ∧
        Carries target s (p :: done) rest ledgers'

lemma FabricState.Stuck.not_inState (h : s.Stuck p target) : ¬ s.InState p target := by
  rintro ⟨r, hr, hthere⟩
  exact h r hr s.ledgers (Or.inl ⟨hthere, rfl⟩)

/-- A round for a partition that is there already moves nothing. -/
lemma Round.idle (h : Round target p name s t) (hs : s.InState p target) :
    t.ledgers = s.ledgers := by
  obtain ⟨r, hr, hthere⟩ := hs
  obtain ⟨r', -, -, ⟨⟨-, hsame⟩ | ⟨hne, -⟩, -⟩ | ⟨-, hsame, -⟩⟩ := h.found r hr
  · exact hsame
  · exact absurd hthere hne
  · exact hsame

/-- Rounds bring every partition they visit to the state exactly when the ledgers carry it. -/
theorem Rounds.carries_iff {visits : List (PartitionId × Option Text)}
    (h : Rounds target visits u t) (done : List PartitionId)
    (hdone : ∀ p ∈ done, u.InState p target)
    (hothers : ∀ p, p ∉ done → u.findPartition p = s.findPartition p) :
    (∀ v ∈ visits, t.InState v.1 target) ↔
      Carries target s done (visits.map Prod.fst) u.ledgers := by
  induction visits generalizing u done with
  | nil => exact iff_of_true (fun v hv ↦ by cases hv) trivial
  | cons v rest ih =>
    obtain ⟨w, hround, hrest⟩ := h
    rw [List.map_cons, Carries, List.forall_mem_cons]
    by_cases hv : v.1 ∈ done
    · have hthere := hdone v.1 hv
      have hrec := ih hrest done (fun p hp ↦ hround.inState (hdone p hp)) fun p hp ↦
        (hround.others p fun hpv ↦ hp (hpv ▸ hv)).trans (hothers p hp)
      rw [hround.idle hthere] at hrec
      rw [hrec]
      exact ⟨fun hrest' ↦ Or.inl ⟨hv, hrest'.2⟩, fun hor ↦
        ⟨hrest.inState (hround.inState hthere), (hor.resolve_right fun hnew ↦ hnew.1 hv).2⟩⟩
    · have hsame := hothers v.1 hv
      cases hfind : u.findPartition v.1 with
      | none =>
        refine iff_of_false (fun hall ↦ ?_) ?_
        · have hstuck : u.Stuck v.1 target := fun r hr ↦ by
            rw [hfind] at hr
            cases hr
          exact (hrest.stuck (hround.stuck hstuck)).not_inState hall.1
        · rintro (⟨hin, -⟩ | ⟨-, r, -, hr, -⟩)
          · exact hv hin
          · rw [← hsame, hfind] at hr
            cases hr
      | some r =>
        obtain ⟨r', hr', -, ⟨hfollows, hstate⟩ | ⟨hstuck, -⟩⟩ := hround.found r hfind
        · have hthere : w.InState v.1 target := ⟨r', hr', hstate⟩
          have hrec := ih hrest (v.1 :: done)
            (fun p hp ↦ by
              rcases List.mem_cons.mp hp with rfl | hp
              · exact hthere
              · exact hround.inState (hdone p hp))
            fun p hp ↦ by
              obtain ⟨hpv, hpdone⟩ := not_or.mp (mt List.mem_cons.mpr hp)
              exact (hround.others p hpv).trans (hothers p hpdone)
          rw [hrec]
          constructor
          · rintro ⟨-, hcarries⟩
            exact Or.inr ⟨hv, r, w.ledgers, hsame ▸ hfind, hfollows, hcarries⟩
          · rintro (⟨hin, -⟩ | ⟨-, k, m, hk, hkm, hcarries⟩)
            · exact absurd hin hv
            · obtain rfl := Option.some.inj (hfind.symm.trans (hsame.trans hk))
              obtain rfl := hkm.unique hfollows
              exact ⟨hrest.inState hthere, hcarries⟩
        · refine iff_of_false (fun hall ↦ ?_) ?_
          · have hstuck' : u.Stuck v.1 target := fun k hk ↦ by
              obtain rfl := Option.some.inj (hfind.symm.trans hk)
              exact hstuck
            exact (hrest.stuck (hround.stuck hstuck')).not_inState hall.1
          · rintro (⟨hin, -⟩ | ⟨-, k, m, hk, hkm, -⟩)
            · exact hv hin
            · obtain rfl := Option.some.inj (hfind.symm.trans (hsame.trans hk))
              exact hstuck m hkm

/-- The name of a partition after some rounds. -/
def nameAfter (p : PartitionId) (visits : List (PartitionId × Option Text)) (name : Text) : Text :=
  visits.foldl (fun name v ↦ if v.1 = p then v.2.getD name else name) name

lemma Rounds.named {visits : List (PartitionId × Option Text)} {r : PartitionRecord}
    (h : Rounds target visits s t) (hr : s.findPartition p = some r) :
    ∃ r', t.findPartition p = some r' ∧
      r'.nativeIdentity.nativeId = nameAfter p visits r.nativeIdentity.nativeId := by
  induction visits generalizing s r with
  | nil => exact ⟨r, (show t = s from h) ▸ hr, rfl⟩
  | cons v rest ih =>
    obtain ⟨u, hround, hrest⟩ := h
    unfold nameAfter
    rw [List.foldl_cons]
    by_cases hv : v.1 = p
    · subst hv
      obtain ⟨r', hr', hname, -⟩ := hround.found r hr
      rw [if_pos rfl, ← hname]
      exact ih hrest hr'
    · rw [if_neg hv]
      exact ih hrest ((hround.others p fun hp ↦ hv hp.symm).trans hr)

end Rounds

section Retouching

variable {p : PartitionId} {name : Option Text}

/-- The partition under a key is written anew, and transitions treat it as before. -/
structure Retouches (p : PartitionId) (name : Option Text) (s t : FabricState) : Prop where
  ledgers : t.ledgers = s.ledgers
  others : ∀ q, q ≠ p → t.findPartition q = s.findPartition q
  missing : s.findPartition p = none → t.findPartition p = none
  found : ∀ r, s.findPartition p = some r → ∃ r', t.findPartition p = some r' ∧ r.Alike r' ∧
    r'.nativeIdentity.nativeId = name.getD r.nativeIdentity.nativeId

lemma retouches_modify {f : PartitionRecord → PartitionRecord}
    (halike : ∀ r : PartitionRecord, r.Alike (f r))
    (hname : ∀ r, (f r).nativeIdentity.nativeId = name.getD r.nativeIdentity.nativeId) :
    Retouches p name s (s.modifyPartition p f) := by
  have hfind : (s.modifyPartition p f).findPartition p = (s.findPartition p).map f := by
    unfold FabricState.modifyPartition FabricState.findPartition
    rw [KeyedMap.find?_modify, if_pos rfl]
  refine ⟨rfl, fun q hq ↦ KeyedMap.find?_modify_of_ne _ _ hq, fun hp ↦ ?_, fun r hr ↦ ?_⟩
  · rw [hfind, hp, Option.map_none]
  · exact ⟨f r, by rw [hfind, hr, Option.map_some], halike r, hname r⟩

lemma Retouches.trans (h : Retouches p name s t)
    (h' : Retouches p none t u) : Retouches p name s u := by
  refine ⟨h'.ledgers.trans h.ledgers, fun q hq ↦ (h'.others q hq).trans (h.others q hq),
    fun hp ↦ h'.missing (h.missing hp), fun r hr ↦ ?_⟩
  obtain ⟨r', hr', halike, hname⟩ := h.found r hr
  obtain ⟨r'', hr'', halike', hname'⟩ := h'.found r' hr'
  exact ⟨r'', hr'', ⟨halike'.accelerator.trans halike.accelerator,
    halike'.resources.trans halike.resources, halike'.state.trans halike.state,
    halike'.held.trans halike.held⟩, hname'.trans hname⟩

lemma Retouches.round (h : Retouches p name s t) (hround : Round target p none t u) :
    Round target p name s u := by
  refine ⟨fun q hq ↦ (hround.others q hq).trans (h.others q hq), fun hp ↦ ?_, fun r hr ↦ ?_⟩
  · obtain ⟨hmissing, hledgers⟩ := hround.missing (h.missing hp)
    exact ⟨hmissing, hledgers.trans h.ledgers⟩
  · obtain ⟨r', hr', halike, hname⟩ := h.found r hr
    obtain ⟨r'', hr'', hname', hor⟩ := hround.found r' hr'
    refine ⟨r'', hr'', hname'.trans hname, ?_⟩
    rw [h.ledgers] at hor
    rcases hor with ⟨hfollows, hstate⟩ | ⟨hstuck, hledgers, halike'⟩
    · exact Or.inl ⟨halike.follows.mp hfollows, hstate⟩
    · refine Or.inr ⟨fun m hm ↦ hstuck m (halike.follows.mpr hm), hledgers, ?_⟩
      exact ⟨halike'.accelerator.trans halike.accelerator,
        halike'.resources.trans halike.resources, halike'.state.trans halike.state,
        halike'.held.trans halike.held⟩

lemma Round.retouch (h : Round target p name s t) (hretouch : Retouches p none t u) :
    Round target p name s u := by
  refine ⟨fun q hq ↦ (hretouch.others q hq).trans (h.others q hq), fun hp ↦ ?_, fun r hr ↦ ?_⟩
  · obtain ⟨hmissing, hledgers⟩ := h.missing hp
    exact ⟨hretouch.missing hmissing, hretouch.ledgers.trans hledgers⟩
  · obtain ⟨r', hr', hname, hor⟩ := h.found r hr
    obtain ⟨r'', hr'', halike, hname'⟩ := hretouch.found r' hr'
    refine ⟨r'', hr'', hname'.trans hname, ?_⟩
    rw [hretouch.ledgers]
    rcases hor with ⟨hfollows, hstate⟩ | ⟨hstuck, hledgers, halike'⟩
    · exact Or.inl ⟨hfollows, halike.state.trans hstate⟩
    · exact Or.inr ⟨hstuck, hledgers, halike.accelerator.trans halike'.accelerator,
        halike.resources.trans halike'.resources, halike.state.trans halike'.state,
        halike.held.trans halike'.held⟩

/-- A transition whose outcome is disregarded is a round. -/
lemma round_transition (now : UInt64) (reason : Text) :
    Round target p none s (transitionPartition now p target reason s).1 := by
  rcases transitionPartition_cases now p target reason s with
    hsame | ⟨r, l, l', held, hr, hallowed, hne, hl, hfollows, hmoved⟩
  · rw [hsame]
    refine ⟨fun _ _ ↦ rfl, fun hp ↦ ⟨hp, rfl⟩, fun r hr ↦ ⟨r, hr, rfl, ?_⟩⟩
    by_cases hthere : r.state = target
    · exact Or.inl ⟨Or.inl ⟨hthere, rfl⟩, hthere⟩
    · refine Or.inr ⟨fun m hm ↦ ?_, rfl, rfl, rfl, rfl, rfl⟩
      rcases hm with ⟨hstate, -⟩ | ⟨-, hallowed, l, l', held, hl, hcapacity, -⟩
      · exact hthere hstate
      · have hstate := (transitionPartition_moved now reason hr hallowed hthere hl
          hcapacity.funded).1
        rw [hsame, hr] at hstate
        exact hthere (Option.some.inj hstate)
  · rw [hmoved]
    refine ⟨fun q hq ↦ KeyedMap.find?_insert_of_ne _ _ hq, fun hp ↦ ?_, fun k hk ↦ ?_⟩
    · rw [FabricState.findPartition, hr] at hp
      cases hp
    · obtain rfl := Option.some.inj (hr.symm.trans hk)
      exact ⟨_, KeyedMap.find?_insert_self _ _ _, rfl,
        Or.inl ⟨Or.inr ⟨hne, hallowed, l, l', held, hl, hfollows, rfl⟩, rfl⟩⟩

end Retouching

section Loops

/-- The name that each partition of a commit is given: that of the first observed partition which
answers its spec and was not taken by an earlier one. -/
def CommitEvidence.names (e : CommitEvidence) (desired : List PlannedPartition) (s : FabricState) :
    List (PartitionId × ℕ) → List Text → List (PartitionId × Option Text)
  | [], _ => []
  | (p, index) :: rest, claimed =>
    match s.findPartition p with
    | none => (p, none) :: names e desired s rest claimed
    | some _ =>
      let found := desired[index]?.bind fun planned ↦ e.unclaimed planned claimed
      (p, found.map fun f ↦ f.2.nativeId) :: names e desired s rest (claim claimed found)

lemma CommitEvidence.map_names (e : CommitEvidence) (desired : List PlannedPartition)
    (visits : List (PartitionId × ℕ)) (claimed : List Text) :
    (e.names desired s visits claimed).map Prod.fst = visits.map Prod.fst := by
  induction visits generalizing claimed with
  | nil => rfl
  | cons v rest ih =>
    obtain ⟨p, index⟩ := v
    unfold names
    cases s.findPartition p with
    | none => simp only [List.map_cons, ih]
    | some r => simp only [List.map_cons, ih]

lemma retouches_bindFound (p : PartitionId) (backend : Text)
    (found : Option (BackendLayout × BackendNativePartition)) :
    Retouches p (found.map fun f ↦ f.2.nativeId) s (bindFound p backend found s) := by
  cases found with
  | none => exact ⟨rfl, fun _ _ ↦ rfl, id, fun r hr ↦ ⟨r, hr, ⟨rfl, rfl, rfl, rfl⟩, rfl⟩⟩
  | some f => exact retouches_modify (fun _ ↦ ⟨rfl, rfl, rfl, rfl⟩) fun _ ↦ rfl

lemma retouches_stamp (e : CommitEvidence) (p : PartitionId) :
    Retouches p none s (e.stamp p s) := by
  unfold CommitEvidence.stamp stampPartitionEvidence
  cases next s.evidenceGeneration with
  | error err => exact retouches_modify (fun _ ↦ ⟨rfl, rfl, rfl, rfl⟩) fun _ ↦ rfl
  | ok g =>
    have hnumbered : Retouches p none s { s with evidenceGeneration := g } :=
      ⟨rfl, fun _ _ ↦ rfl, id, fun r hr ↦ ⟨r, hr, ⟨rfl, rfl, rfl, rfl⟩, rfl⟩⟩
    exact hnumbered.trans (retouches_modify (fun _ ↦ ⟨rfl, rfl, rfl, rfl⟩) fun _ ↦ rfl)

/-- Publishing created partitions is a sequence of rounds. -/
lemma rounds_publishCreated (e : CommitEvidence) (desired : List PlannedPartition)
    (visits : List (PartitionId × ℕ)) (claimed : List Text)
    (hsame : ∀ p, (u.findPartition p).isSome = (s.findPartition p).isSome) :
    ∃ t, publishCreated e desired visits claimed u = (t, .ok ()) ∧
      Rounds .active (e.names desired s visits claimed) u t := by
  induction visits generalizing u claimed with
  | nil => exact ⟨u, rfl, rfl⟩
  | cons v rest ih =>
    obtain ⟨p, index⟩ := v
    have hp := hsame p
    unfold publishCreated CommitEvidence.names
    rw [get_bind]
    cases hu : u.findPartition p with
    | none =>
      rw [hu] at hp
      rw [Option.isSome_none, eq_comm, Option.isSome_eq_false_iff, Option.isNone_iff_eq_none] at hp
      rw [hp]
      obtain ⟨t, hrun, hrounds⟩ := ih claimed hsame
      refine ⟨t, hrun, u, ⟨fun _ _ ↦ rfl, fun hp ↦ ⟨hp, rfl⟩, fun r hr ↦ ?_⟩, hrounds⟩
      rw [hu] at hr
      cases hr
    | some r =>
      rw [hu, Option.isSome_some, eq_comm, Option.isSome_iff_exists] at hp
      obtain ⟨r₀, hr₀⟩ := hp
      rw [hr₀]
      simp only
      let found := desired[index]?.bind fun planned ↦ e.unclaimed planned claimed
      let w := (transitionPartition e.now p .active "physical creation verified"
        (e.stamp p (bindFound p e.accelerator.backend found u))).1
      let w' := w.modifyPartition p fun record ↦ { record with externallyObserved := false }
      have hround : Round .active p (found.map fun f ↦ f.2.nativeId) u w' :=
        (((retouches_bindFound p e.accelerator.backend found).trans (retouches_stamp e p)).round
          (round_transition e.now _)).retouch
            (retouches_modify (fun _ ↦ ⟨rfl, rfl, rfl, rfl⟩) fun _ ↦ rfl)
      obtain ⟨t, hrun, hrounds⟩ := ih (claim claimed found) (u := w') fun q ↦ by
        rw [← hsame q]
        by_cases hq : q = p
        · subst hq
          obtain ⟨r', hr', -⟩ := hround.found r hu
          rw [hr', hu]
          rfl
        · rw [hround.others q hq]
      exact ⟨t, hrun, w', hround, hrounds⟩

/-- Retiring destroyed partitions is a sequence of rounds that name nothing. -/
lemma rounds_retireDestroyed (now : UInt64) (keys : List PartitionId) (s : FabricState) :
    ∃ t, keys.forM (retireDestroyed now) s = (t, .ok ()) ∧
      Rounds .retired (keys.map fun p ↦ (p, none)) s t := by
  induction keys generalizing s with
  | nil => exact ⟨s, rfl, rfl⟩
  | cons p rest ih =>
    have hround : ∃ u, retireDestroyed now p s = (u, .ok ()) ∧ Round .retired p none s u := by
      have htransition : Round .retired p none s
          (transitionPartition now p .retired "physical destruction verified" s).1 :=
        round_transition now _
      unfold retireDestroyed
      rw [bind_apply, attempt_apply]
      simp only
      cases (transitionPartition now p .retired "physical destruction verified" s).2 with
      | error err => exact ⟨_, rfl, htransition⟩
      | ok done =>
        refine ⟨_, rfl, htransition.retouch (retouches_modify (fun r ↦ ?_) fun r ↦ ?_)⟩
        · exact ⟨r.supersede_accelerator, r.supersede_resources, r.supersede_state,
            r.supersede_heldBucket⟩
        · rw [r.supersede_nativeIdentity]
          rfl
    obtain ⟨u, hrun, hround⟩ := hround
    obtain ⟨t, hrest, hrounds⟩ := ih u
    refine ⟨t, ?_, u, hround, hrounds⟩
    change (retireDestroyed now p >>= fun _ ↦ rest.forM (retireDestroyed now)) s = _
    rw [bind_ok hrun, hrest]

end Loops

section Committing

variable {key : PartitionAttemptId} {mutation : Result BackendMutationResult}
  {observed : Option BackendLayout} {a : PartitionAttempt} {r : PartitionReservation}
  {accelerator : AcceleratorRecord} {outcome : MutationOutcome}

/-- A name that an observed partition bears. -/
def Names (observed : Option BackendLayout) (name : Text) : Prop :=
  name ≠ [] ∧ ∃ layout, observed = some layout ∧ ∃ native ∈ layout.partitions,
    native.nativeId = name

lemma isSome_findNative {layout : BackendLayout} {name : Text} :
    (findNative layout name).isSome = true ↔ Names (some layout) name := by
  unfold findNative Names
  rw [List.find?_isSome]
  constructor
  · rintro ⟨native, hmem, htest⟩
    simp only [Bool.and_eq_true, Bool.not_eq_true', decide_eq_true_eq] at htest
    refine ⟨?_, layout, rfl, native, hmem, htest.2⟩
    rintro rfl
    cases htest.1
  · rintro ⟨hne, layout', hsame, native, hmem, hname⟩
    obtain rfl := Option.some.inj hsame
    exact ⟨native, hmem, by simp [hname, hne]⟩

/-- A commit that is reported for an attempt which was not settled before has brought about what
the attempt was for. -/
def CommitDone (s : FabricState) (key : PartitionAttemptId) (mutation : Result BackendMutationResult)
    (observed : Option BackendLayout) (now : UInt64) : Prop :=
  ∀ a t outcome, s.findAttempt key = some a → attemptSettled a.state = false →
    applyMutationResultLocked key mutation observed now s = (t, .ok outcome) →
      outcome.committed = true →
        (a.kind = .createPartition → ∀ p ∈ a.partitions, ∃ record, t.findPartition p = some record ∧
          record.state = .active ∧ Names observed record.nativeIdentity.nativeId) ∧
        (a.kind = .destroyPartition → ∀ p ∈ a.partitions, ∃ record,
          t.findPartition p = some record ∧ record.state = .retired ∧
            ¬ Names observed record.nativeIdentity.nativeId)

/-- A verified result finds partitions that can all be brought where the attempt wants them, and an
observed partition for each created one. -/
def CommitCarried (s : FabricState) (key : PartitionAttemptId)
    (mutation : Result BackendMutationResult) (observed : Option BackendLayout) (now : UInt64) :
    Prop :=
  ∀ a r accelerator, s.findAttempt key = some a → a.state.inFlight = true →
    s.findReservation a.reservation = some r → s.findAccelerator a.accelerator = some accelerator →
      (verifyMutation s a r (mutationReport mutation) observed).verified = true →
        (a.kind = .createPartition → Carries .active s [] a.partitions s.ledgers ∧
          ∀ p record, p ∈ a.partitions → s.findPartition p = some record →
            Names observed (nameAfter p ((⟨accelerator, observed, now⟩ : CommitEvidence).names
              a.desired s a.partitions.zipIdx []) record.nativeIdentity.nativeId)) ∧
        (a.kind = .destroyPartition → Carries .retired s [] a.partitions s.ledgers)

lemma commitMutation_eq {e : CommitEvidence} {detail : Text}
    (hrun : commitPartitions e a s = (u, .ok ())) :
    ∃ t done, commitMutation e key a detail outcome s = (t, .ok done) ∧ done.committed = true ∧
      t.partitions = u.partitions := by
  unfold commitMutation
  rw [bind_ok hrun, modify_bind, modify_bind, modify_bind]
  exact ⟨_, _, rfl, rfl, bump_partitions⟩

/-- A result that is not verified commits nothing. -/
lemma not_committed {report : BackendMutationResult} {done : MutationOutcome}
    (hverified : (verifyMutation s a r report observed).verified = false)
    (houtcome : outcome.committed = false)
    (h : settleMutation key a r accelerator report observed now outcome s = (t, .ok done)) :
    done.committed = false := by
  unfold settleMutation at h
  rw [get_bind] at h
  simp only [hverified, Bool.false_eq_true, if_false] at h
  split at h
  · unfold loseMutation at h
    obtain ⟨_, _, -, h⟩ := bind_eq_ok.mp h
    obtain ⟨_, _, -, h⟩ := bind_eq_ok.mp h
    obtain ⟨_, _, -, h⟩ := bind_eq_ok.mp h
    obtain ⟨_, _, -, h⟩ := bind_eq_ok.mp h
    obtain rfl := Except.ok.inj (Prod.mk.inj h).2
    exact houtcome
  · unfold failMutation at h
    obtain ⟨_, _, -, h⟩ := bind_eq_ok.mp h
    obtain ⟨_, _, -, h⟩ := bind_eq_ok.mp h
    obtain ⟨_, _, -, h⟩ := bind_eq_ok.mp h
    obtain ⟨_, _, -, h⟩ := bind_eq_ok.mp h
    obtain ⟨_, _, -, h⟩ := bind_eq_ok.mp h
    obtain rfl := Except.ok.inj (Prod.mk.inj h).2
    exact houtcome

lemma AttemptState.inFlight_iff (state : AttemptState) :
    state.inFlight = true ↔ attemptSettled state = false ∧ state ≠ .outcomeUnknown := by
  cases state <;> decide

/-- The result of an attempt in flight is settled by what its verification says. -/
lemma applyMutationResultLocked_eq (mutation : Result BackendMutationResult)
    (observed : Option BackendLayout) (now : UInt64) (ha : s.findAttempt key = some a)
    (hflight : a.state.inFlight = true) (hr : s.findReservation a.reservation = some r)
    (hacc : s.findAccelerator a.accelerator = some accelerator) :
    ∃ start : MutationOutcome, start.committed = false ∧
      applyMutationResultLocked key mutation observed now s =
        settleMutation key a r accelerator (mutationReport mutation) observed now start s := by
  obtain ⟨hopen, hunknown⟩ := a.state.inFlight_iff.mp hflight
  unfold applyMutationResultLocked
  rw [get_bind, ha]
  simp only
  rw [hr]
  simp only [hopen, hunknown, Bool.false_eq_true, if_false]
  rw [hacc]
  exact ⟨_, rfl, rfl⟩

/-- A result that commits an attempt is verified, and the attempt was in flight. -/
lemma verified_of_committed (ha : s.findAttempt key = some a)
    (hopen : attemptSettled a.state = false)
    (h : applyMutationResultLocked key mutation observed now s = (t, .ok outcome))
    (hcommitted : outcome.committed = true) :
    ∃ r accelerator start, a.state.inFlight = true ∧ s.findReservation a.reservation = some r ∧
      s.findAccelerator a.accelerator = some accelerator ∧
      (verifyMutation s a r (mutationReport mutation) observed).verified = true ∧
      start.committed = false ∧ settleMutation key a r accelerator (mutationReport mutation)
        observed now start s = (t, .ok outcome) := by
  have hrun := h
  unfold applyMutationResultLocked at hrun
  rw [get_bind, ha] at hrun
  simp only at hrun
  cases hr : s.findReservation a.reservation with
  | none =>
    rw [hr] at hrun
    obtain rfl := Except.ok.inj (Prod.mk.inj hrun).2
    cases hcommitted
  | some r =>
    rw [hr] at hrun
    simp only [hopen, Bool.false_eq_true, if_false] at hrun
    by_cases hunknown : a.state = .outcomeUnknown
    · rw [if_pos hunknown] at hrun
      obtain rfl := Except.ok.inj (Prod.mk.inj hrun).2
      cases hcommitted
    · rw [if_neg hunknown] at hrun
      have hflight := a.state.inFlight_iff.mpr ⟨hopen, hunknown⟩
      cases hacc : s.findAccelerator a.accelerator with
      | none =>
        rw [hacc] at hrun
        obtain ⟨_, _, -, hrun⟩ := bind_eq_ok.mp hrun
        obtain rfl := Except.ok.inj (Prod.mk.inj hrun).2
        cases hcommitted
      | some accelerator =>
        obtain ⟨start, hstart, heq⟩ := applyMutationResultLocked_eq mutation observed now ha hflight
          hr hacc
        rw [heq] at h
        cases hverified : (verifyMutation s a r (mutationReport mutation) observed).verified with
        | false =>
          rw [not_committed hverified hstart h] at hcommitted
          cases hcommitted
        | true => exact ⟨r, accelerator, start, hflight, rfl, rfl, hverified, hstart, h⟩

/-- A result that commits a creation or a destruction leaves the partitions of its commit. -/
lemma committed_cases (ha : s.findAttempt key = some a) (hopen : attemptSettled a.state = false)
    (hkind : a.kind ≠ .reconfigureLayout)
    (h : applyMutationResultLocked key mutation observed now s = (t, .ok outcome))
    (hcommitted : outcome.committed = true) :
    ∃ r accelerator, a.state.inFlight = true ∧ s.findReservation a.reservation = some r ∧
      s.findAccelerator a.accelerator = some accelerator ∧
      (verifyMutation s a r (mutationReport mutation) observed).verified = true ∧
      ∀ u, commitPartitions ⟨accelerator, observed, now⟩ a s = (u, .ok ()) →
        t.partitions = u.partitions := by
  obtain ⟨r, accelerator, start, hflight, hr, hacc, hverified, -, hsettle⟩ :=
    verified_of_committed ha hopen h hcommitted
  refine ⟨r, accelerator, hflight, hr, hacc, hverified, fun u hrun ↦ ?_⟩
  unfold settleMutation at hsettle
  rw [get_bind] at hsettle
  simp only [hverified, if_true] at hsettle
  rw [if_neg hkind] at hsettle
  obtain ⟨t', done, hcommit, -, hpartitions⟩ := commitMutation_eq hrun
  rw [hcommit] at hsettle
  rw [← (Prod.mk.inj hsettle).1, hpartitions]

/-- A verified creation or destruction is committed, whatever became of its partitions. -/
lemma commits_of_verified (ha : s.findAttempt key = some a) (hflight : a.state.inFlight = true)
    (hr : s.findReservation a.reservation = some r)
    (hacc : s.findAccelerator a.accelerator = some accelerator)
    (hverified : (verifyMutation s a r (mutationReport mutation) observed).verified = true)
    (hkind : a.kind ≠ .reconfigureLayout)
    (hrun : commitPartitions ⟨accelerator, observed, now⟩ a s = (u, .ok ())) :
    ∃ t outcome, applyMutationResultLocked key mutation observed now s = (t, .ok outcome) ∧
      outcome.committed = true ∧ t.partitions = u.partitions := by
  obtain ⟨start, -, heq⟩ := applyMutationResultLocked_eq mutation observed now ha hflight hr hacc
  rw [heq]
  unfold settleMutation
  rw [get_bind]
  simp only [hverified, if_true]
  rw [if_neg hkind]
  exact commitMutation_eq hrun

lemma nameAfter_unnamed (p : PartitionId) (keys : List PartitionId) (name : Text) :
    nameAfter p (keys.map fun q ↦ (q, none)) name = name := by
  induction keys with
  | nil => rfl
  | cons q rest ih =>
    unfold nameAfter at ih ⊢
    rw [List.map_cons, List.foldl_cons, Option.getD_none, ite_self]
    exact ih

/-- A verified destruction leaves nothing observed of what it destroyed. -/
lemma destroyed_of_verified {report : BackendMutationResult} {p : PartitionId}
    {record : PartitionRecord} (hkind : a.kind = .destroyPartition)
    (hverified : (verifyMutation s a r report observed).verified = true) (hp : p ∈ a.partitions)
    (hrecord : s.findPartition p = some record) :
    ¬ Names observed record.nativeIdentity.nativeId := by
  unfold verifyMutation at hverified
  rw [hkind] at hverified
  simp only at hverified
  unfold verifyDestruction at hverified
  split at hverified
  · cases hverified
  · cases observed with
    | none => cases hverified
    | some layout =>
      intro hnames
      have hgone : (!a.partitions.any (stillObserved s layout)) = true := hverified
      rw [Bool.not_eq_true', List.any_eq_false] at hgone
      refine hgone p hp ?_
      unfold stillObserved
      rw [hrecord, Option.any_some, isSome_findNative.mpr hnames, Bool.and_true, Bool.not_eq_true']
      exact List.isEmpty_eq_false_iff.mpr hnames.1

/-- A commit has brought about what its attempt was for exactly when the partitions of a verified
result can be brought there, and are observed. -/
theorem commit_done_iff : CommitDone s key mutation observed now ↔
    CommitCarried s key mutation observed now := by
  have hcreated (e : CommitEvidence) (a : PartitionAttempt) (hkind : a.kind = .createPartition) :
      ∃ u, commitPartitions e a s = (u, .ok ()) ∧
        Rounds .active (e.names a.desired s a.partitions.zipIdx []) s u := by
    unfold commitPartitions
    rw [hkind]
    exact rounds_publishCreated e a.desired a.partitions.zipIdx [] fun _ ↦ rfl
  have hdestroyed (e : CommitEvidence) (a : PartitionAttempt) (hkind : a.kind = .destroyPartition) :
      ∃ u, commitPartitions e a s = (u, .ok ()) ∧
        Rounds .retired (a.partitions.map fun p ↦ (p, none)) s u := by
    unfold commitPartitions
    rw [hkind]
    exact rounds_retireDestroyed e.now a.partitions s
  have hvisited (e : CommitEvidence) (a : PartitionAttempt) :
      (e.names a.desired s a.partitions.zipIdx []).map Prod.fst = a.partitions := by
    rw [CommitEvidence.map_names, List.zipIdx_map_fst]
  have hretired (a : PartitionAttempt) :
      (a.partitions.map fun p ↦ (p, (none : Option Text))).map Prod.fst = a.partitions := by
    rw [List.map_map]
    exact List.map_id _
  constructor
  · intro h a r accelerator ha hflight hr hacc hverified
    have hopen := (a.state.inFlight_iff.mp hflight).1
    refine ⟨fun hkind ↦ ?_, fun hkind ↦ ?_⟩
    · obtain ⟨u, hrun, hrounds⟩ := hcreated ⟨accelerator, observed, now⟩ a hkind
      obtain ⟨t, outcome, happly, hcommitted, hpartitions⟩ :=
        commits_of_verified ha hflight hr hacc hverified (by rw [hkind]; decide) hrun
      have hdone := (h a t outcome ha hopen happly hcommitted).1 hkind
      unfold FabricState.findPartition at hdone
      rw [hpartitions] at hdone
      refine ⟨?_, fun p record hp hrecord ↦ ?_⟩
      · rw [← hvisited ⟨accelerator, observed, now⟩ a]
        refine (hrounds.carries_iff [] (fun p hp ↦ by cases hp) fun _ _ ↦ rfl).mp
          fun v hv ↦ ?_
        have hmem : v.1 ∈ a.partitions := by
          rw [← hvisited ⟨accelerator, observed, now⟩ a]
          exact List.mem_map_of_mem hv
        obtain ⟨record, hrecord, hactive, -⟩ := hdone v.1 hmem
        exact ⟨record, hrecord, hactive⟩
      · obtain ⟨record', hrecord', -, hnames⟩ := hdone p hp
        obtain ⟨k, hk, hname⟩ := hrounds.named hrecord
        obtain rfl := Option.some.inj (hrecord'.symm.trans hk)
        rwa [← hname]
    · obtain ⟨u, hrun, hrounds⟩ := hdestroyed ⟨accelerator, observed, now⟩ a hkind
      obtain ⟨t, outcome, happly, hcommitted, hpartitions⟩ :=
        commits_of_verified ha hflight hr hacc hverified (by rw [hkind]; decide) hrun
      have hdone := (h a t outcome ha hopen happly hcommitted).2 hkind
      unfold FabricState.findPartition at hdone
      rw [hpartitions] at hdone
      rw [← hretired a]
      refine (hrounds.carries_iff [] (fun p hp ↦ by cases hp) fun _ _ ↦ rfl).mp
        fun v hv ↦ ?_
      have hmem : v.1 ∈ a.partitions := by
        rw [← hretired a]
        exact List.mem_map_of_mem hv
      obtain ⟨record, hrecord, hstate, -⟩ := hdone v.1 hmem
      exact ⟨record, hrecord, hstate⟩
  · intro h a t outcome ha hopen happly hcommitted
    refine ⟨fun hkind p hp ↦ ?_, fun hkind p hp ↦ ?_⟩
    · obtain ⟨r, accelerator, hflight, hr, hacc, hverified, hpartitions⟩ :=
        committed_cases ha hopen (by rw [hkind]; decide) happly hcommitted
      obtain ⟨u, hrun, hrounds⟩ := hcreated ⟨accelerator, observed, now⟩ a hkind
      obtain ⟨hcarries, hnames⟩ := (h a r accelerator ha hflight hr hacc hverified).1 hkind
      have hp' := hp
      rw [← hvisited ⟨accelerator, observed, now⟩ a] at hcarries hp'
      obtain ⟨v, hv, rfl⟩ := List.mem_map.mp hp'
      obtain ⟨record, hrecord, hactive⟩ := (hrounds.carries_iff []
        (fun p hp ↦ by cases hp) fun _ _ ↦ rfl).mpr hcarries v hv
      obtain ⟨k, hk⟩ := hrounds.recorded ⟨record, hrecord, hactive⟩
      obtain ⟨record', hrecord', hname⟩ := hrounds.named hk
      obtain rfl := Option.some.inj (hrecord.symm.trans hrecord')
      refine ⟨record, ?_, hactive, ?_⟩
      · unfold FabricState.findPartition
        rw [hpartitions u hrun]
        exact hrecord
      · rw [hname]
        exact hnames v.1 k hp hk
    · obtain ⟨r, accelerator, hflight, hr, hacc, hverified, hpartitions⟩ :=
        committed_cases ha hopen (by rw [hkind]; decide) happly hcommitted
      obtain ⟨u, hrun, hrounds⟩ := hdestroyed ⟨accelerator, observed, now⟩ a hkind
      have hcarries := (h a r accelerator ha hflight hr hacc hverified).2 hkind
      have hp' := hp
      rw [← hretired a] at hcarries hp'
      obtain ⟨v, hv, rfl⟩ := List.mem_map.mp hp'
      obtain ⟨record, hrecord, hstate⟩ := (hrounds.carries_iff []
        (fun p hp ↦ by cases hp) fun _ _ ↦ rfl).mpr hcarries v hv
      obtain ⟨k, hk⟩ := hrounds.recorded ⟨record, hrecord, hstate⟩
      obtain ⟨record', hrecord', hname⟩ := hrounds.named hk
      obtain rfl := Option.some.inj (hrecord.symm.trans hrecord')
      refine ⟨record, ?_, hstate, ?_⟩
      · unfold FabricState.findPartition
        rw [hpartitions u hrun]
        exact hrecord
      · rw [hname, nameAfter_unnamed]
        exact destroyed_of_verified hkind hverified hp hk

end Committing

namespace Sample

/-- The device disappears after the dispatch. -/
def goneInFlight : List Op :=
  dispatched ++ [.reconcile 1 { layout [] with devicePresent := false } 5]

end Sample

/-- The creation of a slice that is offline is committed, and the slice stays offline. -/
theorem commit_not_done : ¬ ∀ s key mutation observed now, fabric.Reachable anyOp s →
    CommitDone s key mutation observed now := by
  intro h
  have hreach : fabric.Reachable anyOp (fabric.run Sample.goneInFlight Sample.opened) :=
    System.Reachable.run (.initial ⟨_, _, rfl⟩) (by decide)
  have hdone := h _ 5 Sample.accepted (some (Sample.layout ["a"])) 6 hreach
  let s := fabric.run Sample.goneInFlight Sample.opened
  change CommitDone s 5 Sample.accepted (some (Sample.layout ["a"])) 6 at hdone
  have hattempt : (s.findAttempt 5).any (fun a ↦ !attemptSettled a.state &&
      decide (a.kind = .createPartition) && a.partitions.contains 4) = true := by decide +kernel
  have hoffline : ((applyMutationResultLocked 5 Sample.accepted (some (Sample.layout ["a"])) 6
      s).1.findPartition 4).map PartitionRecord.state = some .offline := by decide +kernel
  have hcommitted : (applyMutationResultLocked 5 Sample.accepted (some (Sample.layout ["a"])) 6
      s).2.toOption.any MutationOutcome.committed = true := by decide +kernel
  clear_value s
  obtain ⟨a, ha, htest⟩ := (Option.any_eq_true _ _).mp hattempt
  simp only [Bool.and_eq_true, Bool.not_eq_true', decide_eq_true_eq, List.contains_iff_mem] at htest
  cases hrun : applyMutationResultLocked 5 Sample.accepted (some (Sample.layout ["a"])) 6 s with
  | mk t result =>
    rw [hrun] at hoffline hcommitted
    cases result with
    | error e => cases hcommitted
    | ok outcome =>
      obtain ⟨record, hrecord, hactive, -⟩ :=
        (hdone a t outcome ha htest.1.1 hrun hcommitted).1 htest.1.2 4 htest.2
      rw [hrecord] at hoffline
      exact absurd (hactive.symm.trans (Option.some.inj hoffline)) (by decide)

end PartitionFabric
