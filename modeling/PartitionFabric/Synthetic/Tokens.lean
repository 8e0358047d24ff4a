import PartitionFabric.Synthetic.Calls

/-!
Idempotency tokens of the synthetic backend: as long as no step forgets a token, the requests of
one token change the partitions of their device at most once.
-/

namespace PartitionFabric

namespace SyntheticBackend

/-- The partitions of a device. -/
def partitionsOf (backend : SyntheticBackend) (key : Text) : Option (List Partition) :=
  (backend.find key).map Device.partitions

/-- A mutation request with a token for a device. -/
def Call.requests (call : Call) (key : Text) (token : UInt64) : Bool :=
  match call.mutation? with
  | some (_, _, request) => request.stableKey = key && request.idempotencyToken = token
  | none => false

/-- A reset of a device. -/
def Call.resets (call : Call) (key : Text) : Bool :=
  match call with
  | .resetDevice own => own = key
  | _ => false

/-- How often the requests of a token change the partitions of a device along a run. -/
def changes (key : Text) (token : UInt64) : List Call → SyntheticBackend → ℕ
  | [], _ => 0
  | call :: calls, backend =>
    (if call.requests key token = true ∧
        backend.partitionsOf key ≠ (synthetic.step call backend).partitionsOf key then 1 else 0) +
      changes key token calls (synthetic.step call backend)

/-- The tokens that a device has recorded. -/
def Device.tokens (device : Device) : List UInt64 := device.appliedTokens.keys.filter (· ≠ 0)

/-- The tokens that a device has recorded when one more is. -/
def Device.tokensWith (device : Device) (token : UInt64) : List UInt64 :=
  (device.appliedTokens.insert token {}).keys.filter (· ≠ 0)

/-- The call forgets no token: a creation that is applied leaves room for those that its device has
recorded, and no device that has recorded one is replaced, removed or started anew. -/
def remembers (backend : SyntheticBackend) : Call → Prop
  | .createPartitions _ request => ∀ device ∈ backend.find request.stableKey,
      creation.reaches backend.faults request device = true →
      (device.admitCreate request.desired).isOk = true →
      (device.tokensWith request.idempotencyToken).length ≤ 256
  | .addDevice spec => ∀ device ∈ backend.find spec.key, device.tokens = []
  | .removeDevice key => ∀ device ∈ backend.find key, device.tokens = []
  | .restart => ∀ device ∈ backend.devices.values, device.tokens = []
  | _ => True

instance (backend : SyntheticBackend) (call : Call) : Decidable (backend.remembers call) :=
  match call with
  | .createPartitions _ _ => inferInstanceAs (Decidable (∀ device ∈ backend.find _, _ → _ → _))
  | .addDevice spec => inferInstanceAs (Decidable (∀ device ∈ backend.find spec.key, _))
  | .removeDevice key => inferInstanceAs (Decidable (∀ device ∈ backend.find key, _))
  | .restart => inferInstanceAs (Decidable (∀ device ∈ backend.devices.values, _))
  | .setFaults _ | .setFault _ _ | .mutateCapability _ _ _ _ _ | .resetDevice _
  | .setDevicePresent _ _ | .externalCreate _ _ | .externalDestroy _ _ | .queryLayout _ _
  | .destroyPartitions _ _ | .reconfigureLayout _ _ | .importState _ =>
    inferInstanceAs (Decidable True)

section Table

variable {α : Type}

lemma dropMatching_true (k : ℕ) (l : List (UInt64 × α)) :
    KeyedMap.dropMatching (fun _ ↦ true) k l = l.drop k := by
  induction l generalizing k with
  | nil => cases k <;> rfl
  | cons e rest ih =>
    cases k with
    | zero => rfl
    | succ k => exact ih k

/-- What is bound to a key is bound among the keys. -/
lemma keys_insert (m : KeyedMap UInt64 α) (k : UInt64) (v w : α) :
    (m.insert k v).keys = (m.insert k w).keys := by
  have hentries : ∀ l : List (UInt64 × α),
      (KeyedMap.insertEntry k v l).map Prod.fst = (KeyedMap.insertEntry k w l).map Prod.fst := by
    intro l
    induction l with
    | nil => rfl
    | cons e rest ih =>
      unfold KeyedMap.insertEntry
      split_ifs
      · rfl
      · rfl
      · exact congrArg (e.1 :: ·) ih
  exact hentries m.entries

/-- The keys other than zero survive when the bound is that of the entries they are in. -/
lemma find?_prune {m : KeyedMap UInt64 α} {bound : ℕ}
    (h : (m.keys.filter (· ≠ 0)).length ≤ bound) {k : UInt64} {v : α} (hk : k ≠ 0)
    (hfind : m.find? k = some v) : (m.prune (fun _ ↦ true) bound).find? k = some v := by
  rw [KeyedMap.find?_eq_some_iff_mem] at hfind ⊢
  unfold KeyedMap.prune
  simp only [dropMatching_true]
  set n := m.entries.length - bound with hn
  have hsplit := List.take_append_drop n m.entries
  rw [← hsplit, List.mem_append] at hfind
  refine hfind.resolve_left fun hfirst ↦ ?_
  -- the entries behind a dropped one have larger keys, and they alone fill the bound
  have hsorted := m.sorted
  rw [← hsplit, List.pairwise_append] at hsorted
  have hlast : ∀ e ∈ m.entries.drop n, e.1 ≠ 0 := by
    intro e he hzero
    have hlt : k < e.1 := hsorted.2.2 _ hfirst e he
    rw [hzero, UInt64.lt_iff_toNat_lt] at hlt
    exact absurd hlt (Nat.not_lt_zero _)
  have hcount : 1 + (m.entries.drop n).length ≤ (m.keys.filter (· ≠ 0)).length := by
    have hkeys : m.keys.filter (· ≠ 0) =
        ((m.entries.take n).filter (·.1 ≠ 0)).map Prod.fst ++
          ((m.entries.drop n).filter (·.1 ≠ 0)).map Prod.fst := by
      rw [← List.map_append, ← List.filter_append, hsplit, KeyedMap.keys, List.filter_map]
      rfl
    have hkept : (k, v) ∈ (m.entries.take n).filter (·.1 ≠ 0) :=
      List.mem_filter.mpr ⟨hfirst, by simpa using hk⟩
    have hall : (m.entries.drop n).filter (·.1 ≠ 0) = m.entries.drop n :=
      List.filter_eq_self.mpr fun e he ↦ by simpa using hlast e he
    rw [hkeys, List.length_append, List.length_map, List.length_map, hall]
    have hpos := List.length_pos_of_mem hkept
    omega
  have hlength : n ≤ m.entries.length := Nat.sub_le _ _
  have hpos : 0 < n := by
    by_contra hzero
    have hempty : n = 0 := by omega
    rw [hempty] at hfirst
    cases hfirst
  rw [List.length_drop] at hcount
  omega

end Table

section Recorded

variable {backend : SyntheticBackend} {device : Device} {call : Call} {key : Text}
  {token : UInt64}

/-- A device has recorded a token. -/
def Device.Recorded (device : Device) (token : UInt64) : Prop :=
  ∃ result, device.appliedTokens.find? token = some result

lemma Device.Recorded.mem_tokens (h : device.Recorded token) (htoken : token ≠ 0) :
    token ∈ device.tokens := by
  obtain ⟨result, hresult⟩ := h
  exact List.mem_filter.mpr ⟨KeyedMap.mem_keys.mpr ⟨result, hresult⟩, by simpa using htoken⟩

lemma Device.Recorded.replay (h : device.Recorded token) (htoken : token ≠ 0) :
    device.replay token ≠ none := by
  obtain ⟨result, hresult⟩ := h
  simp [Device.replay, htoken, hresult]

/-- The token of a mutation is recorded with those that were. -/
lemma recorded_record {own : UInt64} (result : BackendMutationResult)
    (h : token = own ∨ device.Recorded token) : (device.record own result).Recorded token := by
  unfold Device.Recorded Device.record
  simp only [KeyedMap.find?_insert]
  rcases h with rfl | ⟨earlier, hearlier⟩
  · exact ⟨result, if_pos rfl⟩
  · split
    · exact ⟨result, rfl⟩
    · exact ⟨earlier, hearlier⟩

/-- A token survives the eviction when the table has room for all tokens. -/
lemma recorded_evict (h : device.Recorded token) (htoken : token ≠ 0)
    (hroom : device.tokens.length ≤ 256) : device.evict.Recorded token := by
  obtain ⟨result, hresult⟩ := h
  exact ⟨result, find?_prune hroom htoken hresult⟩

/-- What a mutation has recorded, and the tokens that were recorded before. -/
lemma recorded_finish {kind : MutationKind} {nowMs own : UInt64} {faults : SyntheticFaults}
    {applied : Application} (htokens : applied.1.appliedTokens = device.appliedTokens)
    (hkind : kind.settle = id ∨
      kind.settle = Device.evict ∧ (device.tokensWith own).length ≤ 256)
    (htoken : token ≠ 0) (h : token = own ∨ device.Recorded token) :
    (kind.finish nowMs own faults applied).1.Recorded token := by
  have hobserved : (applied.1.observed faults).appliedTokens = device.appliedTokens := by
    rw [tokens_observed, htokens]
  have hrecorded : ∀ result, ((applied.1.observed faults).record own result).Recorded token := by
    intro result
    apply recorded_record
    apply h.imp_right
    intro hdevice
    unfold Device.Recorded
    rw [hobserved]
    exact hdevice
  unfold MutationKind.finish
  simp only
  rcases hkind with hid | ⟨hevict, hroom⟩
  · rw [hid]
    exact hrecorded _
  · rw [hevict]
    apply recorded_evict (hrecorded _) htoken
    unfold Device.tokens Device.record
    simp only [hobserved]
    rw [keys_insert _ _ _ {}]
    exact hroom

/-- A mutation keeps every token when its request leaves room. -/
lemma settle_of_mutation {kind : MutationKind} {nowMs : UInt64}
    {request : PartitionMutationRequest} {applied : Application}
    (hcall : call.mutation? = some (kind, nowMs, request)) (hmeets : backend.remembers call)
    (hfind : backend.find request.stableKey = some device)
    (hreaches : kind.reaches backend.faults request device = true)
    (happly : kind.apply backend.faults request device = .ok applied) :
    kind.Lawful ∧ (kind.settle = id ∨
      kind.settle = Device.evict ∧
        (device.tokensWith request.idempotencyToken).length ≤ 256) := by
  cases call with
  | createPartitions nowMs' request' =>
    simp only [Call.mutation?, Option.some.injEq, Prod.mk.injEq] at hcall
    obtain ⟨rfl, rfl, rfl⟩ := hcall
    rw [creation_apply] at happly
    obtain ⟨profiles, hadmitted, -⟩ := applyCreate_ok happly
    have hroom := hmeets device hfind hreaches (by rw [hadmitted]; rfl)
    exact ⟨creation_lawful, .inr ⟨rfl, hroom⟩⟩
  | destroyPartitions nowMs' request' =>
    simp only [Call.mutation?, Option.some.injEq, Prod.mk.injEq] at hcall
    obtain ⟨rfl, rfl, rfl⟩ := hcall
    exact ⟨destruction_lawful, .inl rfl⟩
  | reconfigureLayout nowMs' request' =>
    simp only [Call.mutation?, Option.some.injEq, Prod.mk.injEq] at hcall
    obtain ⟨rfl, rfl, rfl⟩ := hcall
    exact ⟨reconfiguration_lawful, .inl rfl⟩
  | _ => cases hcall

/-- A request of a token that changes partitions leaves the token recorded. -/
lemma records_step (hrequests : call.requests key token = true) (htoken : token ≠ 0)
    (hmeets : backend.remembers call)
    (hchanged : backend.partitionsOf key ≠ (synthetic.step call backend).partitionsOf key) :
    ∃ after, (synthetic.step call backend).find key = some after ∧ after.Recorded token := by
  have hchange := step_change call backend key
  unfold partitionsOf at hchanged
  generalize hbefore : backend.find key = before at hchange hchanged
  generalize (synthetic.step call backend).find key = after at hchange hchanged ⊢
  cases hchange with
  | kept => exact absurd rfl hchanged
  | mutated _ kind nowMs request device applied hcall hkey hreaches happly =>
    subst hkey
    obtain ⟨hkind, hsettle⟩ := settle_of_mutation hcall hmeets hbefore hreaches happly
    have hown : token = request.idempotencyToken := by
      simp only [Call.requests, hcall, Bool.and_eq_true, decide_eq_true_eq] at hrequests
      exact hrequests.2.symm
    exact ⟨_, rfl, recorded_finish (hkind.tokens happly) hsettle htoken (.inl hown)⟩
  | _ => cases hrequests

/-- A request of a recorded token changes nothing. -/
lemma replayed_step {device : Device} (hrequests : call.requests key token = true)
    (htoken : token ≠ 0) (hfind : backend.find key = some device) (h : device.Recorded token) :
    backend.partitionsOf key = (synthetic.step call backend).partitionsOf key := by
  have hchange := step_change call backend key
  unfold partitionsOf
  rw [hfind] at hchange ⊢
  generalize (synthetic.step call backend).find key = after at hchange ⊢
  cases hchange with
  | kept => rfl
  | mutated _ kind nowMs request _ applied hcall hkey hreaches happly =>
    have hown : request.idempotencyToken = token := by
      simp only [Call.requests, hcall, Bool.and_eq_true, decide_eq_true_eq] at hrequests
      exact hrequests.2
    have hreplay := MutationKind.replay_of_reaches hreaches
    rw [hown] at hreplay
    exact absurd hreplay (h.replay htoken)
  | _ => cases hrequests

/-- A step that forgets no token and does not reset the device keeps what the device recorded. -/
lemma recorded_step {device : Device} (htoken : token ≠ 0) (hmeets : backend.remembers call)
    (hreset : call.resets key = false) (hfind : backend.find key = some device)
    (h : device.Recorded token) :
    ∃ after, (synthetic.step call backend).find key = some after ∧ after.Recorded token := by
  have hmem := h.mem_tokens htoken
  have hchange := step_change call backend key
  rw [hfind] at hchange
  generalize (synthetic.step call backend).find key = after at hchange ⊢
  cases hchange with
  | kept => exact ⟨device, rfl, h⟩
  | added spec _ hkey =>
    rw [hmeets device (hkey ▸ hfind)] at hmem
    cases hmem
  | removed =>
    rw [hmeets device hfind] at hmem
    cases hmem
  | republished => exact ⟨_, rfl, h⟩
  | reset => simp [Call.resets] at hreset
  | shown => exact ⟨_, rfl, h⟩
  | externallyCreated => exact ⟨_, rfl, h⟩
  | externallyDestroyed => exact ⟨_, rfl, h⟩
  | queried =>
    refine ⟨_, rfl, ?_⟩
    unfold Device.Recorded
    rw [tokens_observed]
    exact h
  | mutated _ kind nowMs request _ applied hcall hkey hreaches happly =>
    subst hkey
    obtain ⟨hkind, hsettle⟩ := settle_of_mutation hcall hmeets hfind hreaches happly
    exact ⟨_, rfl, recorded_finish (hkind.tokens happly) hsettle htoken (.inr h)⟩
  | imported bytes device restored hspec htokens =>
    refine ⟨restored, rfl, ?_⟩
    unfold Device.Recorded
    rw [htokens]
    exact h
  | restarted =>
    have hvalue : device ∈ backend.devices.values := KeyedMap.mem_values.mpr ⟨key, hfind⟩
    rw [hmeets device hvalue] at hmem
    cases hmem

end Recorded

section Runs

variable {key : Text} {token : UInt64}

/-- From a state that has recorded a token, its requests change nothing. -/
lemma changes_of_recorded (htoken : token ≠ 0) (calls : List Call) (backend : SyntheticBackend)
    (hreset : ∀ call ∈ calls, call.resets key = false)
    (hmeets : synthetic.Follows remembers calls backend) {device : Device}
    (hfind : backend.find key = some device) (h : device.Recorded token) :
    changes key token calls backend = 0 := by
  induction calls generalizing backend device with
  | nil => rfl
  | cons call calls ih =>
    obtain ⟨hcall, hcalls⟩ := List.forall_mem_cons.mp hreset
    obtain ⟨after, hafter, hrecorded⟩ := recorded_step htoken hmeets.1 hcall hfind h
    have hsame : ¬ (call.requests key token = true ∧
        backend.partitionsOf key ≠ (synthetic.step call backend).partitionsOf key) := by
      rintro ⟨hrequests, hchanged⟩
      exact hchanged (replayed_step hrequests htoken hfind h)
    rw [changes, if_neg hsame, ih _ hcalls hmeets.2 hafter hrecorded]

/-- Between resets of a device, the requests of a token change its partitions at most once in
every run whose steps forget no token. -/
theorem tokens_apply_once (htoken : token ≠ 0) (calls : List Call) (backend : SyntheticBackend)
    (hreset : ∀ call ∈ calls, call.resets key = false)
    (hmeets : synthetic.Follows remembers calls backend) :
    changes key token calls backend ≤ 1 := by
  induction calls generalizing backend with
  | nil => exact Nat.zero_le 1
  | cons call calls ih =>
    obtain ⟨hcall, hcalls⟩ := List.forall_mem_cons.mp hreset
    rw [changes]
    split
    · rename_i hchanged
      obtain ⟨after, hafter, hrecorded⟩ :=
        records_step hchanged.1 htoken hmeets.1 hchanged.2
      rw [changes_of_recorded htoken calls _ hcalls hmeets.2 hafter hrecorded]
    · rw [Nat.zero_add]
      exact ih _ hcalls hmeets.2

namespace Sample

/-- A device with one profile. -/
def spec : SyntheticDeviceSpec :=
  { key := "a", physicalTotals := { values := fun _ ↦ 8, mask := 2 },
    profiles := [{ name := "p", resources := { values := fun _ ↦ 4, mask := 2 } }] }

/-- A creation of one partition under a token. -/
def creates (token : UInt64) : Call :=
  .createPartitions 0
    { stableKey := "a", desired := [{ vendorNativeProfile := "p" }], idempotencyToken := token }

/-- A request and its repetition. -/
def repeated : List Call := [.addDevice spec, creates 1, creates 1]

/-- A request and its repetition behind a restart of the worker. -/
def restarted : List Call := [.addDevice spec, creates 1, .restart, creates 1]

end Sample

theorem tokens_apply_once_repeated : changes "a" 1 Sample.repeated {} ≤ 1 :=
  tokens_apply_once (by decide) Sample.repeated {} (by decide +kernel) (by decide +kernel)

/-- A restart forgets the tokens, and the request is applied once more. -/
theorem token_applied_twice : ¬ ∀ (key : Text) (token : UInt64) (calls : List Call),
    token ≠ 0 → (∀ call ∈ calls, call.resets key = false) → changes key token calls {} ≤ 1 := by
  intro h
  have htwice : changes "a" 1 Sample.restarted {} = 2 := by decide +kernel
  have honce := h "a" 1 Sample.restarted (by decide) (by decide +kernel)
  omega

end Runs

end SyntheticBackend

end PartitionFabric
