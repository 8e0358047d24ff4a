import PartitionFabric.Foundation.Procedure
import Mathlib.Data.List.Infix
import Mathlib.Data.PNat.Notation

/-!
Sources that hand out what they have in pieces, and sinks that take what they are given in pieces.

How a source is cut into pieces does not matter to a reader that insists on a number of values: it
acts on what the source holds altogether. The judgement behind this relates a procedure to one over
a view of its state, and is kept by sequencing, branching and repetition. A receiver of values that
each carry their own length takes from a part of a stream the values that are complete in it.
-/

namespace Procedure

variable {ε σ τ α β : Type} {view : σ → τ}

/-- What a procedure returns, and the view of the state it leaves, are those of a procedure over
the view. -/
def Realizes (view : σ → τ) (m : Procedure ε σ α) (n : Procedure ε τ α) : Prop :=
  ∀ s, n (view s) = (view (m s).1, (m s).2)

namespace Realizes

lemma pure (a : α) : Realizes view (Pure.pure a : Procedure ε σ α) (Pure.pure a) := fun _ ↦ rfl

lemma lift (r : Except ε α) : Realizes view (Procedure.lift r) (Procedure.lift r) := fun _ ↦ rfl

lemma modify {g : σ → σ} {g' : τ → τ} (h : ∀ s, g' (view s) = view (g s)) :
    Realizes view (Procedure.modify g : Procedure ε σ Unit) (Procedure.modify g') := fun s ↦ by
  rw [modify_apply, h]
  rfl

lemma bind {m : Procedure ε σ α} {n : Procedure ε τ α} {f : α → Procedure ε σ β}
    {g : α → Procedure ε τ β} (hm : Realizes view m n) (hf : ∀ a, Realizes view (f a) (g a)) :
    Realizes view (m >>= f) (n >>= g) := by
  intro s
  rcases hrun : m s with ⟨t, e | a⟩
  · have hn : n (view s) = (view t, .error e) := by rw [hm s, hrun]
    rw [bind_error hrun, bind_error hn]
  · have hn : n (view s) = (view t, .ok a) := by rw [hm s, hrun]
    rw [bind_ok hrun, bind_ok hn, hf a t]

/-- What is read of the state is read of its view. -/
lemma get_bind {f : σ → Procedure ε σ β} {g : τ → Procedure ε τ β}
    (h : ∀ s, Realizes view (f s) (g (view s))) : Realizes view (get >>= f) (get >>= g) :=
  fun s ↦ h s s

lemma ite {c : Prop} [Decidable c] {m m' : Procedure ε σ α} {n n' : Procedure ε τ α}
    (hm : Realizes view m n) (hm' : Realizes view m' n') :
    Realizes view (if c then m else m') (if c then n else n') := by
  split
  · exact hm
  · exact hm'

end Realizes

/-- Runs a procedure again and again until it fails, at most a number of times. -/
def untilError (m : Procedure ε σ α) : ℕ → σ → List α × Option ε
  | 0, _ => ([], none)
  | n + 1, s =>
    match m s with
    | (t, .ok a) => (a :: (untilError m n t).1, (untilError m n t).2)
    | (_, .error e) => ([], some e)

lemma untilError_ok {m : Procedure ε σ α} {s t : σ} {a : α} (h : m s = (t, .ok a)) (n : ℕ) :
    untilError m (n + 1) s = (a :: (untilError m n t).1, (untilError m n t).2) := by
  rw [untilError, h]

lemma untilError_error {m : Procedure ε σ α} {s t : σ} {e : ε} (h : m s = (t, .error e)) (n : ℕ) :
    untilError m (n + 1) s = ([], some e) := by
  rw [untilError, h]

/-- A procedure that realizes another one returns what that one returns, however often it runs. -/
theorem Realizes.untilError {m : Procedure ε σ α} {n : Procedure ε τ α} (h : Realizes view m n)
    (k : ℕ) (s : σ) : m.untilError k s = n.untilError k (view s) := by
  induction k generalizing s with
  | zero => rfl
  | succ k ih =>
    rcases hrun : m s with ⟨t, e | a⟩
    · have hn : n (view s) = (view t, .error e) := by rw [h s, hrun]
      rw [untilError_error hrun, untilError_error hn]
    · have hn : n (view s) = (view t, .ok a) := by rw [h s, hrun]
      rw [untilError_ok hrun, untilError_ok hn, ih]

end Procedure

/-- What a source holds altogether, and the failure it ends with unless it is just closed. -/
structure Feed (ε β : Type) where
  content : List β
  failure : Option ε

namespace Feed

variable {ε β : Type}

/-- Takes a number of values at once; a source that holds fewer is exhausted. The error of a source
that is closed early depends on how much it held. -/
def readExact (short : ℕ → ε) (size received : ℕ) : Procedure ε (Feed ε β) (List β) := fun f ↦
  if size - received ≤ f.content.length then
    ({ f with content := f.content.drop (size - received) },
      .ok (f.content.take (size - received)))
  else ({ f with content := [] }, .error (f.failure.getD (short (received + f.content.length))))

variable {short : ℕ → ε} {size : ℕ} {f : Feed ε β}

lemma readExact_append {front rest : List β} (hf : f.content = front ++ rest)
    (hsize : front.length = size) :
    readExact short size 0 f = ({ f with content := rest }, .ok front) := by
  have hle : size ≤ f.content.length := by rw [hf, List.length_append]; omega
  rw [readExact, Nat.sub_zero, if_pos hle, hf, List.drop_left' hsize, List.take_left' hsize]

/-- Reading either takes the front of what there is, or takes everything and fails. -/
lemma readExact_cases (short : ℕ → ε) (size : ℕ) (f : Feed ε β) :
    (∃ rest, f.content = f.content.take size ++ rest ∧ (f.content.take size).length = size ∧
      readExact short size 0 f = ({ f with content := rest }, .ok (f.content.take size))) ∨
    f.content.length < size ∧
      ∃ e, readExact short size 0 f = ({ f with content := [] }, .error e) := by
  by_cases hle : size ≤ f.content.length
  · have hlength : (f.content.take size).length = size := by
      rw [List.length_take, Nat.min_eq_left hle]
    refine .inl ⟨f.content.drop size, (List.take_append_drop ..).symm, hlength, ?_⟩
    exact readExact_append (List.take_append_drop ..).symm hlength
  · refine .inr ⟨not_le.mp hle, f.failure.getD (short (0 + f.content.length)), ?_⟩
    rw [readExact, Nat.sub_zero, if_neg hle]

/-- Some values of the front may be taken first. -/
lemma readExact_step {received : ℕ} {chunk rest : List β} {failure : Option ε}
    (hchunk : chunk.length ≤ size - received) :
    readExact short size received ⟨chunk ++ rest, failure⟩ =
      (readExact short size (received + chunk.length) >>= fun more ↦
        (pure (chunk ++ more) : Procedure ε (Feed ε β) (List β))) ⟨rest, failure⟩ := by
  have hsub : size - (received + chunk.length) = size - received - chunk.length := by omega
  by_cases hle : size - received ≤ (chunk ++ rest).length
  · have hle' : size - (received + chunk.length) ≤ rest.length := by
      rw [List.length_append] at hle
      omega
    have hrest : readExact short size (received + chunk.length) ⟨rest, failure⟩ =
        (⟨rest.drop (size - received - chunk.length), failure⟩,
          .ok (rest.take (size - received - chunk.length))) := by
      rw [readExact, if_pos hle', hsub]
    rw [readExact, if_pos hle, Procedure.bind_ok hrest, List.drop_append,
      List.take_append, List.drop_of_length_le hchunk, List.take_of_length_le hchunk]
    rfl
  · have hle' : ¬ size - (received + chunk.length) ≤ rest.length := by
      rw [List.length_append] at hle
      omega
    have hrest : readExact short size (received + chunk.length) ⟨rest, failure⟩ =
        (⟨[], failure⟩, .error (failure.getD (short (received + chunk.length + rest.length)))) := by
      rw [readExact, if_neg hle']
    rw [readExact, if_neg hle, Procedure.bind_error hrest, List.length_append, Nat.add_assoc]

end Feed

/-- A way to receive: it hands out some of what its source holds, at most as many values as it is
asked for, and nothing or the failure when the source is exhausted. -/
structure Receives {ε σ β : Type} (view : σ → Feed ε β) (receive : ℕ → Procedure ε σ (List β)) :
    Prop where
  some : ∀ {n : ℕ} {s : σ}, 0 < n → (view s).content ≠ [] → ∃ chunk t,
    receive n s = (t, .ok chunk) ∧ chunk ≠ [] ∧ chunk.length ≤ n ∧
      view s = ⟨chunk ++ (view t).content, (view t).failure⟩
  closed : ∀ {n : ℕ} {s : σ}, (view s).content = [] → (view s).failure = none →
    ∃ t, receive n s = (t, .ok []) ∧ view t = view s
  failed : ∀ {n : ℕ} {s : σ} {e : ε}, (view s).content = [] → (view s).failure = Option.some e →
    ∃ t, receive n s = (t, .error e) ∧ view t = view s

/-- Receives until a number of values is complete. -/
def receiveExact {ε σ β : Type} (receive : ℕ → Procedure ε σ (List β)) (short : ℕ → ε)
    (size received : ℕ) : Procedure ε σ (List β) :=
  if received < size then do
    let chunk ← receive (size - received)
    if chunk.length = 0 then Procedure.throw (short received)
    else do
      let more ← receiveExact receive short size (received + chunk.length)
      pure (chunk ++ more)
  else pure []
termination_by size - received

/-- Receiving piece by piece takes what one read of everything takes. -/
theorem Receives.realizes_receiveExact {ε σ β : Type} {view : σ → Feed ε β}
    {receive : ℕ → Procedure ε σ (List β)} (h : Receives view receive) (short : ℕ → ε)
    (size received : ℕ) :
    Procedure.Realizes view (receiveExact receive short size received)
      (Feed.readExact short size received) := by
  induction hneed : size - received using Nat.strong_induction_on generalizing received with
  | _ need ih =>
    intro s
    rw [receiveExact]
    split
    · rename_i hmore
      by_cases hcontent : (view s).content = []
      · have hshort : Feed.readExact short size received (view s) =
            (view s, .error ((view s).failure.getD (short received))) := by
          have hlength : (view s).content.length = 0 := by rw [hcontent, List.length_nil]
          rw [Feed.readExact, if_neg (by omega), hlength, Nat.add_zero]
          exact Prod.ext (by rw [← hcontent]) rfl
        rw [hshort]
        cases hfailure : (view s).failure with
        | none =>
          obtain ⟨t, hreceive, hview⟩ := h.closed hcontent hfailure
          rw [Procedure.bind_ok hreceive, ← hview]
          rfl
        | some e =>
          obtain ⟨t, hreceive, hview⟩ := h.failed hcontent hfailure
          rw [Procedure.bind_error hreceive, ← hview]
          rfl
      · obtain ⟨chunk, t, hreceive, hchunk, hlength, hview⟩ :=
          h.some (Nat.sub_pos_of_lt hmore) hcontent
        have hpos : 0 < chunk.length := List.length_pos_of_ne_nil hchunk
        rw [hview, Feed.readExact_step hlength, Procedure.bind_ok hreceive, if_neg (by omega)]
        refine Procedure.Realizes.bind (ih _ ?_ _ rfl) (fun more ↦ .pure _) t
        omega
    · rename_i hdone
      rw [Feed.readExact, Nat.sub_eq_zero_of_le (not_lt.mp hdone), if_pos (Nat.zero_le _)]
      rfl

/-- A source whose values arrive in pieces. -/
structure Chunked (ε β : Type) where
  pieces : List (List β)
  failure : Option ε
  nonempty : ∀ piece ∈ pieces, piece ≠ []

namespace Chunked

variable {ε β : Type}

/-- The source without its cuts. -/
def feed (s : Chunked ε β) : Feed ε β := ⟨s.pieces.flatten, s.failure⟩

/-- What is left of the pieces when some values of the first one were taken. -/
def leave (piece : List β) (rest : List (List β)) (taken : ℕ) : List (List β) :=
  if (piece.drop taken).isEmpty then rest else piece.drop taken :: rest

lemma flatten_leave (piece : List β) (rest : List (List β)) (taken : ℕ) :
    (leave piece rest taken).flatten = piece.drop taken ++ rest.flatten := by
  unfold leave
  split
  · rename_i hempty
    rw [List.isEmpty_iff.mp hempty, List.nil_append]
  · rw [List.flatten_cons]

lemma nonempty_leave {piece : List β} {rest : List (List β)} (hrest : ∀ p ∈ rest, p ≠ [])
    (taken : ℕ) : ∀ p ∈ leave piece rest taken, p ≠ [] := by
  unfold leave
  split
  · exact hrest
  · rename_i hleft
    exact List.forall_mem_cons.mpr ⟨fun h ↦ hleft (List.isEmpty_iff.mpr h), hrest⟩

/-- What is received after the last piece. -/
def ended (s : Chunked ε β) : Except ε (List β) :=
  match s.failure with
  | none => .ok []
  | some e => .error e

/-- Hands out what there is of the first piece, up to a bound; nothing when the source is
closed. -/
def receive (bound : ℕ) : Procedure ε (Chunked ε β) (List β) := fun s ↦
  match hpieces : s.pieces with
  | [] => (s, s.ended)
  | piece :: rest =>
    ({ s with
        pieces := leave piece rest bound
        nonempty := nonempty_leave
          (fun p hp ↦ s.nonempty p (hpieces ▸ List.mem_cons_of_mem piece hp)) bound },
      .ok (piece.take bound))

/-- Everything arrives at once, and then the source is closed. -/
def whole (content : List β) : Chunked ε β where
  pieces := if content.isEmpty then [] else [content]
  failure := none
  nonempty := by
    split
    · exact List.forall_mem_nil _
    · rename_i hcontent
      exact List.forall_mem_singleton.mpr fun h ↦ hcontent (List.isEmpty_iff.mpr h)

/-- Every value arrives on its own, and then the source is closed. -/
def singly (content : List β) : Chunked ε β where
  pieces := content.map fun b ↦ [b]
  failure := none
  nonempty := by
    intro piece hpiece
    obtain ⟨b, -, rfl⟩ := List.mem_map.mp hpiece
    exact List.cons_ne_nil b []

@[simp] lemma feed_whole (content : List β) :
    (whole content : Chunked ε β).feed = ⟨content, none⟩ := by
  have hflatten : (whole content : Chunked ε β).pieces.flatten = content := by
    cases content with
    | nil => rfl
    | cons b rest => exact List.flatten_singleton
  exact congrArg (Feed.mk · none) hflatten

@[simp] lemma feed_singly (content : List β) :
    (singly content : Chunked ε β).feed = ⟨content, none⟩ := by
  have hflatten : (singly content : Chunked ε β).pieces.flatten = content := by
    change (content.map fun b ↦ [b]).flatten = content
    rw [← List.flatMap_def, List.flatMap_singleton']
  exact congrArg (Feed.mk · none) hflatten

variable {s : Chunked ε β}

lemma receive_closed (h : s.pieces = []) (bound : ℕ) : receive bound s = (s, s.ended) := by
  unfold receive
  split
  · rfl
  · rename_i hpieces
    rw [h] at hpieces
    cases hpieces

lemma receive_piece {piece : List β} {rest : List (List β)} (h : s.pieces = piece :: rest)
    (bound : ℕ) : ∃ t : Chunked ε β, t.pieces = leave piece rest bound ∧ t.failure = s.failure ∧
      receive bound s = (t, .ok (piece.take bound)) := by
  unfold receive
  split
  · rename_i hpieces
    rw [h] at hpieces
    cases hpieces
  · rename_i piece' rest' hpieces
    obtain ⟨rfl, rfl⟩ := List.cons.inj (h.symm.trans hpieces)
    exact ⟨⟨leave piece rest bound, s.failure, _⟩, rfl, rfl, rfl⟩

/-- A source that holds nothing has no pieces left. -/
lemma pieces_of_content (h : s.feed.content = []) : s.pieces = [] := by
  cases hpieces : s.pieces with
  | nil => rfl
  | cons piece rest =>
    have hflatten : s.feed.content = piece ++ rest.flatten := by
      rw [feed, hpieces, List.flatten_cons]
    rw [h] at hflatten
    have hpiece : piece ≠ [] := s.nonempty piece (hpieces ▸ List.mem_cons_self ..)
    exact absurd (List.append_eq_nil_iff.mp hflatten.symm).1 hpiece

/-- Receiving at most a number of values at once. -/
lemma receives {atOnce : ℕ} (h : 0 < atOnce) :
    Receives (@feed ε β) fun n ↦ receive (min n atOnce) where
  some := by
    intro n s hn hcontent
    cases hpieces : s.pieces with
    | nil => exact absurd (by rw [feed, hpieces, List.flatten_nil]) hcontent
    | cons piece rest =>
      obtain ⟨t, htpieces, htfailure, hreceive⟩ := receive_piece hpieces (min n atOnce)
      have hpiece : 0 < piece.length :=
        List.length_pos_of_ne_nil (s.nonempty piece (hpieces ▸ List.mem_cons_self ..))
      have hlength : (piece.take (min n atOnce)).length = min (min n atOnce) piece.length :=
        List.length_take ..
      refine ⟨piece.take (min n atOnce), t, hreceive, ?_, by omega, ?_⟩
      · exact List.ne_nil_of_length_pos (by omega)
      · change (⟨s.pieces.flatten, s.failure⟩ : Feed ε β) = ⟨_ ++ t.pieces.flatten, t.failure⟩
        rw [hpieces, htpieces, htfailure, flatten_leave, List.flatten_cons, ← List.append_assoc,
          List.take_append_drop]
  closed := by
    intro n s hcontent hfailure
    refine ⟨s, ?_, rfl⟩
    have hended : s.ended = .ok [] := by rw [ended, show s.failure = none from hfailure]
    rw [receive_closed (pieces_of_content hcontent), hended]
  failed := by
    intro n s e hcontent hfailure
    refine ⟨s, ?_, rfl⟩
    have hended : s.ended = .error e := by rw [ended, show s.failure = some e from hfailure]
    rw [receive_closed (pieces_of_content hcontent), hended]

end Chunked

section Sending

variable {ε σ β : Type} {view : σ → List β} {send : List β → Procedure ε σ ℕ+}

/-- A way to send: it takes a front of what it is given, or fails and takes nothing. -/
structure Sends (view : σ → List β) (send : List β → Procedure ε σ ℕ+) : Prop where
  taken : ∀ {data : List β} {s t : σ} {n : ℕ+}, send data s = (t, .ok n) →
    view t = view s ++ data.take n
  failed : ∀ {data : List β} {s t : σ} {e : ε}, send data s = (t, .error e) → view t = view s

/-- Sends until everything is taken. -/
def sendEntire (send : List β → Procedure ε σ ℕ+) (data : List β) : Procedure ε σ Unit :=
  if data = [] then pure ()
  else do
    let taken ← send data
    sendEntire send (data.drop taken)
termination_by data.length
decreasing_by
  rename_i hdata
  have hpos : 0 < data.length := List.length_pos_of_ne_nil hdata
  have htaken : 0 < (taken : ℕ) := taken.property
  rw [List.length_drop]
  omega

lemma sendEntire_nil (s : σ) : sendEntire send [] s = (s, .ok ()) := by
  rw [sendEntire, if_pos rfl]
  rfl

lemma sendEntire_ne_nil {data : List β} (h : data ≠ []) :
    sendEntire send data = send data >>= fun taken ↦ sendEntire send (data.drop taken) := by
  rw [sendEntire, if_neg h]

/-- What was sent is a front of what was to be sent, and all of it when sending succeeded. -/
theorem Sends.sent (h : Sends view send) (data : List β) (s : σ) :
    ∃ front, front <+: data ∧ view (sendEntire send data s).1 = view s ++ front ∧
      ((sendEntire send data s).2 = .ok () → front = data) := by
  induction hlength : data.length using Nat.strong_induction_on generalizing data s with
  | _ length ih =>
    by_cases hdata : data = []
    · rw [hdata, sendEntire_nil]
      exact ⟨[], List.prefix_refl [], (List.append_nil _).symm, fun _ ↦ rfl⟩
    · rw [sendEntire_ne_nil hdata]
      rcases hsend : send data s with ⟨t, e | taken⟩
      · rw [Procedure.bind_error hsend]
        refine ⟨[], List.nil_prefix, ?_, fun hok ↦ by cases hok⟩
        rw [h.failed hsend, List.append_nil]
      · have hpos : 0 < data.length := List.length_pos_of_ne_nil hdata
        have htaken : 0 < (taken : ℕ) := taken.property
        obtain ⟨front, hfront, hview, hall⟩ := ih (data.drop taken).length
          (by rw [List.length_drop]; omega) (data.drop taken) t rfl
        rw [Procedure.bind_ok hsend]
        refine ⟨data.take taken ++ front, ?_, ?_, fun hok ↦ ?_⟩
        · exact (List.prefix_append_right_inj _).mpr hfront |>.trans
            (List.take_append_drop .. ▸ List.prefix_refl _)
        · rw [hview, h.taken hsend, List.append_assoc]
        · rw [hall hok, List.take_append_drop]

/-- Sending succeeds where no call fails. -/
theorem sendEntire_ok {Ready : σ → Prop}
    (hready : ∀ {data : List β} {s : σ}, data ≠ [] → Ready s →
      ∃ t n, send data s = (t, .ok n) ∧ Ready t) (data : List β) {s : σ} (hs : Ready s) :
    ∃ t, sendEntire send data s = (t, .ok ()) ∧ Ready t := by
  induction hlength : data.length using Nat.strong_induction_on generalizing data s with
  | _ length ih =>
    by_cases hdata : data = []
    · rw [hdata]
      exact ⟨s, sendEntire_nil s, hs⟩
    · obtain ⟨t, taken, hsend, ht⟩ := hready hdata hs
      have hpos : 0 < data.length := List.length_pos_of_ne_nil hdata
      have htaken : 0 < (taken : ℕ) := taken.property
      rw [sendEntire_ne_nil hdata, Procedure.bind_ok hsend]
      exact ih (data.drop taken).length (by rw [List.length_drop]; omega) _ ht rfl

end Sending

section Images

variable {ε α β : Type} {receive : Procedure ε (Feed ε β) α} {image : α → List β}
  {Good : α → Prop}

/-- A receiver of values by their images: it takes a whole image off the front, and fails on a
proper part of one. -/
structure Delimits (receive : Procedure ε (Feed ε β) α) (image : α → List β) (Good : α → Prop) :
    Prop where
  whole : ∀ {a : α} (rest : List β) (failure : Option ε), Good a →
    receive ⟨image a ++ rest, failure⟩ = (⟨rest, failure⟩, .ok a)
  part : ∀ {a : α} {front : List β} (failure : Option ε), Good a → front <+: image a →
    front ≠ image a → ∃ t e, receive ⟨front, failure⟩ = (t, .error e)
  exhausted : ∀ failure, ∃ t e, receive ⟨[], failure⟩ = (t, .error e)

/-- A stream that the receiver fails on carries nothing. -/
lemma untilError_of_fails {f t : Feed ε β} {e : ε} (hfails : receive f = (t, .error e)) (k : ℕ) :
    (receive.untilError k f).1 = [] ∧ (0 < k → (receive.untilError k f).2.isSome) := by
  cases k with
  | zero => exact ⟨rfl, fun hk ↦ absurd hk (lt_irrefl 0)⟩
  | succ k =>
    rw [Procedure.untilError_error hfails]
    exact ⟨rfl, fun _ ↦ rfl⟩

/-- The values that a part of a stream of images carries: those whose images are complete in it. -/
theorem Delimits.untilError (h : Delimits receive image Good) (failure : Option ε) {values : List α}
    (hgood : ∀ a ∈ values, Good a) {front : List β} (hfront : front <+: values.flatMap image) :
    ∃ m ≤ values.length, ((values.take m).flatMap image) <+: front ∧
      (m < values.length → front.length < ((values.take (m + 1)).flatMap image).length) ∧
        ∀ k, (receive.untilError k ⟨front, failure⟩).1 = values.take (min k m) ∧
          (m < k → (receive.untilError k ⟨front, failure⟩).2.isSome) := by
  induction values generalizing front with
  | nil =>
    obtain rfl : front = [] := List.prefix_nil.mp hfront
    obtain ⟨t, e, hfails⟩ := h.exhausted failure
    refine ⟨0, le_refl 0, List.nil_prefix, fun hm ↦ absurd hm (lt_irrefl 0), fun k ↦ ?_⟩
    rw [List.take_nil]
    exact untilError_of_fails hfails k
  | cons a rest ih =>
    obtain ⟨ha, hrest⟩ := List.forall_mem_cons.mp hgood
    rw [List.flatMap_cons] at hfront
    by_cases hwhole : image a <+: front
    · obtain ⟨behind, rfl⟩ := hwhole
      obtain ⟨m, hm, hcomplete, hnext, hruns⟩ :=
        ih hrest ((List.prefix_append_right_inj _).mp hfront)
      refine ⟨m + 1, Nat.succ_le_succ hm, ?_, fun hlt ↦ ?_, fun k ↦ ?_⟩
      · rw [List.take_succ_cons, List.flatMap_cons]
        exact (List.prefix_append_right_inj _).mpr hcomplete
      · rw [List.take_succ_cons, List.flatMap_cons, List.length_append, List.length_append]
        exact Nat.add_lt_add_left (hnext (Nat.lt_of_succ_lt_succ hlt)) _
      · cases k with
        | zero => exact ⟨by rw [Nat.zero_min]; rfl, fun hk ↦ absurd hk (Nat.not_lt_zero _)⟩
        | succ k =>
          obtain ⟨htaken, hfails⟩ := hruns k
          rw [Procedure.untilError_ok (h.whole behind failure ha)]
          refine ⟨?_, fun hk ↦ hfails (Nat.lt_of_succ_lt_succ hk)⟩
          rw [Nat.succ_min_succ, List.take_succ_cons, htaken]
    · have hpart : front <+: image a :=
        (List.prefix_or_prefix_of_prefix hfront
          (List.prefix_append (image a) _)).resolve_right hwhole
      have hne : front ≠ image a := by
        rintro rfl
        exact hwhole (List.prefix_refl _)
      obtain ⟨t, e, hfails⟩ := h.part failure ha hpart hne
      refine ⟨0, Nat.zero_le _, List.nil_prefix, fun _ ↦ ?_, fun k ↦ ?_⟩
      · rw [List.take_succ_cons, List.take_zero, List.flatMap_singleton]
        exact lt_of_le_of_ne hpart.length_le fun heq ↦ hne (hpart.eq_of_length heq)
      · rw [Nat.min_zero, List.take_zero]
        exact untilError_of_fails hfails k

end Images
