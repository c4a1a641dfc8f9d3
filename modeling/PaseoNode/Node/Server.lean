import PaseoNode.Lib.Pool
import PaseoNode.Node.RecordCodes

/-!
# The RPC server

The server runs calls of the five methods side by side, any number at a time, while the head of the chain moves
and runtime calls fail.  A call is either refused for its parameters (`PnsCall.refusal`), or it is one read at
the best block (`serve_of_accepted`); `replyAt` is what it replies when nothing happens beside it.

* `server_linearizable` — every reply is the one that the call gives on its own at a moment between its
  invocation and its return;
* `server_errors` — which calls end with which error, and what they ask before;
* `server_never_stuck` — on a node that prunes its blocks, every call in flight can end, without waiting for
  anything: with the reply for the head of its snapshot, as long as the block of that head is kept.
-/

namespace PaseoNode.Node

open PaseoNode.Lib PaseoNode.Runtime

variable {RT Label E Hickory : Type}

/-! ### Calls -/

/-- A call of a method of `PnsRpc`. -/
inductive PnsCall where
  | getInfo (node : DomainHash)
  | resolveName (name : String)
  | lookup (node : DomainHash) (recordTypes : List UInt32)
  | getListing (name : String)
  | lookupByName (name : String) (recordTypes : List UInt32)

inductive Reply where
  | record (r : Option NameRecord)
  | listing (l : Option ListingInfo)
  | records (pairs : List (UInt32 × Bytes))
  deriving DecidableEq

/-- `impl PnsStorageApiServer for PnsRpc`. -/
def serve (T : RecordTypes Hickory RT) : PnsCall → Rpc RT (RpcResult Reply)
  | .getInfo node => do
    let res ← PnsRpc.getInfo node
    return res.map .record
  | .resolveName name => do
    let res ← PnsRpc.resolveName name
    return res.map .record
  | .lookup node recordTypes => do
    let res ← PnsRpc.lookup T node recordTypes
    return res.map .records
  | .getListing name => do
    let res ← PnsRpc.getListing name
    return res.map .listing
  | .lookupByName name recordTypes => do
    let res ← PnsRpc.lookupByName T name recordTypes
    return res.map .records

/-! ### What a call does on its own -/

def nameRefusal (name : String) : Option ErrorObject :=
  if name.utf8ByteSize > 128 then some (invalidParams "name too long") else none

def typesRefusal (recordTypes : List UInt32) : Option ErrorObject :=
  if recordTypes.length > 50 then some (invalidParams "too many record types (max 50)") else none

namespace PnsCall

/-- The error for the parameters of the call.  The name is checked first. -/
def refusal : PnsCall → Option ErrorObject
  | .getInfo _ => none
  | .resolveName name | .getListing name => nameRefusal name
  | .lookup _ recordTypes => typesRefusal recordTypes
  | .lookupByName name recordTypes => (nameRefusal name).or (typesRefusal recordTypes)

/-- The parameters are within the limits of the server. -/
def WithinLimits : PnsCall → Prop
  | .getInfo _ => True
  | .resolveName name | .getListing name => name.utf8ByteSize ≤ 128
  | .lookup _ recordTypes => recordTypes.length ≤ 50
  | .lookupByName name recordTypes => name.utf8ByteSize ≤ 128 ∧ recordTypes.length ≤ 50

variable (T : RecordTypes Hickory RT)

/-- The runtime call behind the method. -/
def apiCall : PnsCall → ApiCall RT
  | .getInfo node => .getInfo node
  | .resolveName name => .resolveName (intoBytes name)
  | .lookup node recordTypes => .lookup node (recordTypes.map T.ofRequest)
  | .getListing name => .getListing (intoBytes name)
  | .lookupByName name recordTypes => .lookupByName (intoBytes name) (recordTypes.map T.ofRequest)

/-- The reply that the method makes from the answer of the runtime. -/
def reply : (c : PnsCall) → ChainInfo → (c.apiCall T).Answer → Reply
  | .getInfo _, chain, opt | .resolveName _, chain, opt => .record (Option.map (stampRecord chain) opt)
  | .getListing _, chain, opt => .listing (Option.map (stampListing chain) opt)
  | .lookup _ _, _, records | .lookupByName _ _, _, records =>
    .records (List.map (fun p => (T.toReply p.1, p.2)) records)

def finish (c : PnsCall) (chain : ChainInfo) (answer : Except ApiError (c.apiCall T).Answer) : RpcResult Reply :=
  (answer.mapError runtimeError).map (c.reply T chain)

end PnsCall

/-- What the call replies on a head that stands still. -/
def replyAt (P : Pallets RT Label E) (T : RecordTypes Hickory RT) {S : BlockStore RT} (head : Head S) (c : PnsCall) :
    Reply :=
  c.reply T head.info ((c.apiCall T).eval P head.best.state)

theorem nameRefusal_eq_none_iff {name : String} : nameRefusal name = none ↔ name.utf8ByteSize ≤ 128 := by
  simp [nameRefusal]

theorem typesRefusal_eq_none_iff {recordTypes : List UInt32} :
    typesRefusal recordTypes = none ↔ recordTypes.length ≤ 50 := by
  simp [typesRefusal]

namespace PnsCall

variable {T : RecordTypes Hickory RT} {c : PnsCall}

theorem refusal_eq_none_iff : c.refusal = none ↔ c.WithinLimits := by
  cases c with
  | getInfo node => simp [refusal, WithinLimits]
  | resolveName name => exact nameRefusal_eq_none_iff
  | getListing name => exact nameRefusal_eq_none_iff
  | lookup node recordTypes => exact typesRefusal_eq_none_iff
  | lookupByName name recordTypes =>
    rw [refusal, Option.or_eq_none_iff, nameRefusal_eq_none_iff, typesRefusal_eq_none_iff, WithinLimits]

theorem code_of_refusal {e : ErrorObject} (h : c.refusal = some e) : e.code = invalidParamsCode ∧ e.data = none := by
  have hname : ∀ name e, nameRefusal name = some e → e.code = invalidParamsCode ∧ e.data = none := by
    intro name e h
    simp only [nameRefusal, Option.ite_none_right_eq_some, Option.some_inj] at h
    obtain ⟨-, rfl⟩ := h
    exact ⟨rfl, rfl⟩
  have htypes : ∀ recordTypes e, typesRefusal recordTypes = some e → e.code = invalidParamsCode ∧ e.data = none := by
    intro recordTypes e h
    simp only [typesRefusal, Option.ite_none_right_eq_some, Option.some_inj] at h
    obtain ⟨-, rfl⟩ := h
    exact ⟨rfl, rfl⟩
  cases c with
  | getInfo node => cases h
  | resolveName name => exact hname name e h
  | getListing name => exact hname name e h
  | lookup node recordTypes => exact htypes recordTypes e h
  | lookupByName name recordTypes =>
    rcases Option.or_eq_some_iff.mp h with h | ⟨-, h⟩
    · exact hname name e h
    · exact htypes recordTypes e h

end PnsCall

/-! ### One call -/

section Serve

variable {T : RecordTypes Hickory RT} {c : PnsCall}

theorem serve_of_refused {e : ErrorObject} (h : c.refusal = some e) : serve T c = .ret (.error e) := by
  cases c with
  | getInfo node => cases h
  | resolveName name =>
    simp only [PnsCall.refusal, nameRefusal, Option.ite_none_right_eq_some, Option.some_inj] at h
    obtain ⟨hlen, rfl⟩ := h
    rw [serve, PnsRpc.resolveName, if_pos hlen]
    rfl
  | getListing name =>
    simp only [PnsCall.refusal, nameRefusal, Option.ite_none_right_eq_some, Option.some_inj] at h
    obtain ⟨hlen, rfl⟩ := h
    rw [serve, PnsRpc.getListing, if_pos hlen]
    rfl
  | lookup node recordTypes =>
    simp only [PnsCall.refusal, typesRefusal, Option.ite_none_right_eq_some, Option.some_inj] at h
    obtain ⟨hlen, rfl⟩ := h
    rw [serve, PnsRpc.lookup, if_pos hlen]
    rfl
  | lookupByName name recordTypes =>
    rw [PnsCall.refusal, Option.or_eq_some_iff, nameRefusal_eq_none_iff] at h
    -- the name is checked first
    rw [serve, PnsRpc.lookupByName]
    rcases h with h | ⟨hname, h⟩
    · simp only [nameRefusal, Option.ite_none_right_eq_some, Option.some_inj] at h
      obtain ⟨hlen, rfl⟩ := h
      rw [if_pos hlen]
      rfl
    · simp only [typesRefusal, Option.ite_none_right_eq_some, Option.some_inj] at h
      obtain ⟨hlen, rfl⟩ := h
      rw [if_neg (by omega), if_pos hlen]
      rfl

theorem readAtBest_congr {β : Type} {q : ApiCall RT} {g g' : ChainInfo → Except ApiError q.Answer → β}
    (h : ∀ chain answer, g chain answer = g' chain answer) : readAtBest q g = readAtBest q g' := by
  have hg : g = g' := by
    funext chain answer
    exact h chain answer
  rw [hg]

/-- **An accepted call is one read at the best block.** -/
theorem serve_of_accepted (h : c.refusal = none) : serve T c = readAtBest (c.apiCall T) (c.finish T) := by
  rw [PnsCall.refusal_eq_none_iff] at h
  cases c with
  | getInfo node =>
    refine readAtBest_congr (q := .getInfo node) fun chain answer => ?_
    cases answer <;> rfl
  | resolveName name =>
    rw [serve, PnsRpc.resolveName, if_neg (Nat.not_lt.mpr h)]
    refine readAtBest_congr (q := .resolveName (intoBytes name)) fun chain answer => ?_
    cases answer <;> rfl
  | getListing name =>
    rw [serve, PnsRpc.getListing, if_neg (Nat.not_lt.mpr h)]
    refine readAtBest_congr (q := .getListing (intoBytes name)) fun chain answer => ?_
    cases answer <;> rfl
  | lookup node recordTypes =>
    rw [serve, lookup_eq h]
    refine readAtBest_congr (q := .lookup node (recordTypes.map T.ofRequest)) fun chain answer => ?_
    cases answer <;> rfl
  | lookupByName name recordTypes =>
    rw [serve, lookupByName_eq h.2 h.1]
    refine readAtBest_congr (q := .lookupByName (intoBytes name) (recordTypes.map T.ofRequest))
      fun chain answer => ?_
    cases answer <;> rfl

section Client

variable {P : Pallets RT Label E} {S : BlockStore RT} {head : Head S}
  {tr : List (Exchange (Head S) (Request RT) Request.Response)}

/-- The stages of a call: what it has asked, and what is left of its program. -/
inductive Stage (P : Pallets RT Label E) (T : RecordTypes Hickory RT) (S : BlockStore RT) (c : PnsCall) :
    List (Exchange (Head S) (Request RT) Request.Response) → Rpc RT (RpcResult Reply) → Prop where
  | refused {e : ErrorObject} : c.refusal = some e → Stage P T S c [] (.ret (.error e))
  | called : c.refusal = none → Stage P T S c [] (readAtBest (c.apiCall T) (c.finish T))
  | reading (snapshot : Head S) : c.refusal = none → Stage P T S c [⟨snapshot, .info, snapshot.info⟩]
      (.ask (.call snapshot.best.hash (c.apiCall T)) fun answer => .ret (c.finish T snapshot.info answer))
  | answered (snapshot asked : Head S) (answer : Except ApiError (c.apiCall T).Answer) : c.refusal = none →
      (∃ e, answer = .error e) ∨ answer = .ok ((c.apiCall T).eval P snapshot.best.state) →
      Stage P T S c [⟨snapshot, .info, snapshot.info⟩, ⟨asked, .call snapshot.best.hash (c.apiCall T), answer⟩]
        (.ret (c.finish T snapshot.info answer))

/-- **A call is always at one of its stages.** -/
theorem stage_of_begun {head' : Head S} {p : Rpc RT (RpcResult Reply)}
    (h : Begun (clientEnv P S) head (serve T c) tr head' p) : Stage P T S c tr p := by
  cases hc : c.refusal with
  | some e =>
    rw [serve_of_refused hc] at h
    obtain ⟨rfl, rfl⟩ := h.of_ret
    exact .refused hc
  | none =>
    rw [serve_of_accepted hc] at h
    rcases h.of_ask with ⟨rfl, rfl⟩ | ⟨snapshot, chain, tr₁, rfl, hchain, h⟩
    · exact .called hc
    obtain rfl : chain = snapshot.info := hchain
    rcases h.of_ask with ⟨rfl, rfl⟩ | ⟨asked, answer, tr₂, rfl, hanswer, h⟩
    · exact .reading snapshot hc
    obtain ⟨rfl, rfl⟩ := h.of_ret
    refine .answered snapshot asked answer hc ?_
    -- the block of the snapshot is looked up by its hash
    rcases hanswer with herr | ⟨b, hb, hok⟩
    · exact Or.inl herr
    · obtain rfl : snapshot.best = b := Option.some_inj.mp (snapshot.get_best.symm.trans hb)
      exact Or.inr hok

/-- What a call does: it is refused and asks nothing, or it reads once. -/
theorem run_serve {res : RpcResult Reply} (h : Run (clientEnv P S) head (serve T c) tr res) :
    (∃ e, c.refusal = some e ∧ tr = [] ∧ res = .error e) ∨
    c.refusal = none ∧ ∃ (snapshot asked : Head S) (answer : Except ApiError (c.apiCall T).Answer),
      tr = [⟨snapshot, .info, snapshot.info⟩, ⟨asked, .call snapshot.best.hash (c.apiCall T), answer⟩] ∧
      ((∃ e, answer = .error e ∧ res = .error (runtimeError e)) ∨
        answer = .ok ((c.apiCall T).eval P snapshot.best.state) ∧ res = .ok (replyAt P T snapshot c)) := by
  obtain ⟨head', hbegun⟩ := Begun.of_run h
  have hstage := stage_of_begun hbegun
  generalize hp : Prog.ret res = p at hstage
  cases hstage with
  | refused hc =>
    cases hp
    exact Or.inl ⟨_, hc, rfl, rfl⟩
  | called => cases hp
  | reading => cases hp
  | answered snapshot asked answer hc hanswer =>
    cases hp
    refine Or.inr ⟨hc, snapshot, asked, answer, rfl, ?_⟩
    rcases hanswer with ⟨e, rfl⟩ | rfl
    · exact Or.inl ⟨e, rfl, rfl⟩
    · exact Or.inr ⟨rfl, rfl⟩

theorem replyAt_of_run {reply : Reply} (h : Run (clientEnv P S) head (serve T c) tr (.ok reply)) :
    ∃ x ∈ tr, reply = replyAt P T x.world c := by
  rcases run_serve h with ⟨e, -, -, hres⟩ | ⟨-, snapshot, asked, answer, rfl, ⟨e, -, hres⟩ | ⟨-, hres⟩⟩
  · cases hres
  · cases hres
  · exact ⟨_, List.mem_cons_self, Except.ok.inj hres⟩

end Client

end Serve

/-! ### Side by side -/

section Server

variable {ι : Type} [DecidableEq ι]

/-- A server with its calls in flight. -/
abbrev Server (ι : Type) (S : BlockStore RT) : Type :=
  Pool ι (Head S) (Request RT) Request.Response (RpcResult Reply)

abbrev ServerCall (ι : Type) (S : BlockStore RT) : Type :=
  Call ι PnsCall (Head S) (Request RT) Request.Response (RpcResult Reply)

abbrev ServerEvent (ι : Type) (S : BlockStore RT) : Type :=
  Event ι PnsCall (Head S) (Request RT) Request.Response (RpcResult Reply)

/-- The calls of the history that reply take effect at their points: between invocation and return, with the
reply that the call gives on the head where the moves before the point led, and in the order of the calls that do
not overlap. -/
structure Linearization (P : Pallets RT Label E) (T : RecordTypes Hickory RT) {S : BlockStore RT} (s : Server ι S)
    (evs : List (ServerEvent ι S)) (point : ServerCall ι S → ℕ) : Prop where
  between : ∀ A, A.In evs → (∃ reply, A.result = .ok reply) →
    A.before.length < point A ∧ point A ≤ A.before.length + A.during.length
  effect : ∀ A : ServerCall ι S, A.In evs → (∃ reply, A.result = .ok reply) →
    A.result = .ok (replyAt P T (worldAfter s.world (evs.take (point A))) A.request)
  order : ∀ A B, A.In evs → B.In evs → (∃ reply, A.result = .ok reply) → (∃ reply, B.result = .ok reply) →
    A.Precedes B → point A < point B

/-- **The server is linearizable**, whatever calls run side by side and however the head moves. -/
theorem server_linearizable (P : Pallets RT Label E) (T : RecordTypes Hickory RT) (S : BlockStore RT)
    (s s' : Server ι S) (evs : List (ServerEvent ι S)) (h : History (clientEnv P S) (serve T) s evs s') :
    ∃ point, Linearization P T s evs point := by
  have hreply : ∀ (w : Head S) (c : PnsCall) (tr : List (Exchange (Head S) (Request RT) Request.Response))
      (res : RpcResult Reply), Run (clientEnv P S) w (serve T c) tr res → (∃ reply, res = .ok reply) →
      ∃ x ∈ tr, res = .ok (replyAt P T x.world c) := by
    rintro w c tr res hrun ⟨reply, rfl⟩
    obtain ⟨x, hx, rfl⟩ := replyAt_of_run hrun
    exact ⟨x, hx, rfl⟩
  obtain ⟨point, hpoint, horder⟩ := h.linearizable (F := fun c head res => res = .ok (replyAt P T head c)) hreply
  refine ⟨point, fun A hA hok => ?_, fun A hA hok => ?_, horder⟩
  · -- between
    obtain ⟨hlo, hhi, -⟩ := hpoint A hA hok
    exact ⟨hlo, hhi⟩
  · -- effect
    obtain ⟨-, -, heffect⟩ := hpoint A hA hok
    exact heffect

/-! ### A history -/

/-- Two calls for `b"gift"` overlap, and the head moves to block 2 between their snapshots; a third call asks
for too many types, and the runtime call of a fourth one fails. -/
def giftEvents : List (ServerEvent ℕ giftBlocks) :=
  [.invoked 0 (.getInfo giftNode), .asked 0 ⟨headOne, .info, headOne.info⟩, .moved headTwo,
    .invoked 1 (.getInfo giftNode), .asked 1 ⟨headTwo, .info, headTwo.info⟩,
    .invoked 2 (.lookup giftNode (List.replicate 51 1)),
    .asked 0 ⟨headTwo, .call 101 (.getInfo giftNode), .ok (some saleRecord)⟩,
    .returned 0 (.ok (.record (some (stampRecord headOne.info saleRecord)))),
    .returned 2 (.error (invalidParams "too many record types (max 50)")),
    .invoked 3 (.getInfo giftNode), .asked 3 ⟨headTwo, .info, headTwo.info⟩,
    .asked 3 ⟨headTwo, .call 102 (.getInfo giftNode), .error ⟨"Execution"⟩⟩,
    .asked 1 ⟨headTwo, .call 102 (.getInfo giftNode), .ok none⟩,
    .returned 3 (.error (runtimeError ⟨"Execution"⟩)), .returned 1 (.ok (.record none))]

def giftServer : Server ℕ giftBlocks where
  world := headOne

theorem giftHistory : ∃ s', History (clientEnv Pallets.reference giftBlocks) (serve RecordTypes.reference) giftServer
    giftEvents s' := by
  have hone : (ApiCall.getInfo giftNode).eval Pallets.reference headOne.best.state = some saleRecord :=
    getInfo_listed (by decide)
  have hoffer : OfferLive soldStorage giftNode := ⟨⟨2⟩, by simp [soldStorage], by decide⟩
  have htwo : (ApiCall.getInfo giftNode).eval Pallets.reference headTwo.best.state = none := getInfo_of_offerLive hoffer
  refine ⟨_, .cons (.invoked _ rfl) (.cons (.asked rfl rfl) (.cons (.moved trivial) (.cons (.invoked _ rfl)
    (.cons (.asked rfl rfl) (.cons (.invoked _ rfl) (.cons (.asked rfl ?_) (.cons (.returned rfl)
      (.cons (.returned rfl) (.cons (.invoked _ rfl) (.cons (.asked rfl rfl) (.cons (.asked rfl ?_)
        (.cons (.asked rfl ?_) (.cons (.returned rfl) (.cons (.returned rfl) .nil))))))))))))))⟩
  · -- the call of the first head, answered after the move
    exact Or.inr ⟨headOne.best, rfl, congrArg Except.ok hone.symm⟩
  · exact Or.inl ⟨_, rfl⟩
  · exact Or.inr ⟨headTwo.best, rfl, congrArg Except.ok htwo.symm⟩

theorem server_linearizable_gift :
    ∃ point, Linearization Pallets.reference RecordTypes.reference giftServer giftEvents point := by
  obtain ⟨s', h⟩ := giftHistory
  exact server_linearizable Pallets.reference RecordTypes.reference giftBlocks giftServer s' giftEvents h

/-! ### Errors -/

theorem internalErrorCode_ne : internalErrorCode ≠ invalidParamsCode := by decide

/-- What a call asks and how it ends: a call with parameters beyond the limits is refused and asks nothing; any
other call takes one snapshot and makes one runtime call, at the block of the snapshot, and ends with the
runtime error when that call fails and with the reply for the snapshot when it does not.  The code of an error
tells the two apart. -/
structure EndsAsSpecified (P : Pallets RT Label E) (T : RecordTypes Hickory RT) {S : BlockStore RT}
    (A : ServerCall ι S) : Prop where
  limits : A.request.refusal = none ↔ A.request.WithinLimits
  refused : ∀ e, A.request.refusal = some e → A.exchanges = [] ∧ A.result = .error e
  accepted : A.request.refusal = none →
    ∃ (snapshot asked : Head S) (answer : Except ApiError (A.request.apiCall T).Answer),
      A.exchanges = [⟨snapshot, .info, snapshot.info⟩,
        ⟨asked, .call snapshot.best.hash (A.request.apiCall T), answer⟩] ∧
      ((∃ e, answer = .error e ∧ A.result = .error (runtimeError e)) ∨
        (∃ a, answer = .ok a) ∧ A.result = .ok (replyAt P T snapshot A.request))
  code : ∀ e, A.result = .error e → (e.code = invalidParamsCode ↔ ¬ A.request.WithinLimits) ∧
    (e.code = internalErrorCode ↔ ∃ x ∈ A.exchanges, Failed x)

/-- **Every call ends as specified**, whatever runs beside it. -/
theorem server_errors (P : Pallets RT Label E) (T : RecordTypes Hickory RT) (S : BlockStore RT)
    (s s' : Server ι S) (evs : List (ServerEvent ι S)) (h : History (clientEnv P S) (serve T) s evs s')
    (A : ServerCall ι S) (hA : A.In evs) : EndsAsSpecified P T A := by
  obtain ⟨w, hrun⟩ := h.run_of_call hA
  have hlimits : A.request.refusal = none ↔ A.request.WithinLimits := PnsCall.refusal_eq_none_iff
  rcases run_serve hrun with ⟨e, hc, htr, hres⟩ | ⟨hc, snapshot, asked, answer, htr, hanswer⟩
  · have hcode := (PnsCall.code_of_refusal hc).1
    have hout : ¬ A.request.WithinLimits := by
      rw [← hlimits, hc]
      exact Option.some_ne_none e
    refine ⟨hlimits, fun e' he' => ?_, fun hnone => ?_, fun e' he' => ?_⟩
    · -- refused
      obtain rfl : e = e' := Option.some_inj.mp (hc.symm.trans he')
      exact ⟨htr, hres⟩
    · -- accepted
      rw [hc] at hnone
      cases hnone
    · -- code: the call asked nothing, so nothing failed
      obtain rfl : e = e' := Except.error.inj (hres.symm.trans he')
      refine ⟨⟨fun _ => hout, fun _ => hcode⟩, fun hinternal => ?_, ?_⟩
      · exact absurd (hinternal.symm.trans hcode) internalErrorCode_ne
      · rintro ⟨x, hx, -⟩
        rw [htr] at hx
        cases hx
  · refine ⟨hlimits, fun e he => ?_, fun _ => ⟨snapshot, asked, answer, htr, ?_⟩, fun e he => ?_⟩
    · -- refused
      rw [hc] at he
      cases he
    · -- accepted
      rcases hanswer with herr | ⟨hok, hres⟩
      · exact Or.inl herr
      · exact Or.inr ⟨⟨_, hok⟩, hres⟩
    · -- code: an error of an accepted call is that of its runtime call
      rcases hanswer with ⟨e₀, hanswer, hres⟩ | ⟨-, hres⟩
      · obtain rfl : runtimeError e₀ = e := Except.error.inj (hres.symm.trans he)
        refine ⟨⟨fun hcode => absurd hcode internalErrorCode_ne, fun hout => absurd (hlimits.mp hc) hout⟩,
          fun _ => ?_, fun _ => rfl⟩
        refine ⟨⟨asked, .call snapshot.best.hash (A.request.apiCall T), answer⟩, ?_, e₀, hanswer⟩
        rw [htr]
        exact List.mem_cons_of_mem _ List.mem_cons_self
      · rw [hres] at he
        cases he

/-- The calls of `giftEvents`: one that replies across the move, one that is refused, and one that fails. -/
def acceptedCall : ServerCall ℕ giftBlocks where
  before := []
  id := 0
  request := .getInfo giftNode
  during := (giftEvents.drop 1).take 6
  result := .ok (.record (some (stampRecord headOne.info saleRecord)))
  after := giftEvents.drop 8

def refusedCall : ServerCall ℕ giftBlocks where
  before := giftEvents.take 5
  id := 2
  request := .lookup giftNode (List.replicate 51 1)
  during := (giftEvents.drop 6).take 2
  result := .error (invalidParams "too many record types (max 50)")
  after := giftEvents.drop 9

def failingCall : ServerCall ℕ giftBlocks where
  before := giftEvents.take 9
  id := 3
  request := .getInfo giftNode
  during := (giftEvents.drop 10).take 3
  result := .error (runtimeError ⟨"Execution"⟩)
  after := giftEvents.drop 14

theorem acceptedCall_in : acceptedCall.In giftEvents where
  events := rfl
  first b hb := by simp [acceptedCall, giftEvents] at hb

theorem refusedCall_in : refusedCall.In giftEvents where
  events := rfl
  first b hb := by simp [refusedCall, giftEvents] at hb

theorem failingCall_in : failingCall.In giftEvents where
  events := rfl
  first b hb := by simp [failingCall, giftEvents] at hb

theorem server_errors_gift :
    EndsAsSpecified Pallets.reference RecordTypes.reference acceptedCall ∧
      EndsAsSpecified Pallets.reference RecordTypes.reference refusedCall ∧
      EndsAsSpecified Pallets.reference RecordTypes.reference failingCall ∧
      ∃ x ∈ failingCall.exchanges, Failed x := by
  obtain ⟨s', h⟩ := giftHistory
  have hends := server_errors Pallets.reference RecordTypes.reference giftBlocks giftServer s' giftEvents h
  refine ⟨hends acceptedCall acceptedCall_in, hends refusedCall refusedCall_in, hends failingCall failingCall_in, ?_⟩
  exact ⟨⟨headTwo, .call 102 (.getInfo giftNode), .error ⟨"Execution"⟩⟩, List.mem_cons_of_mem _ List.mem_cons_self, _,
    rfl⟩

/-! ### Progress

A node keeps the states of some of its blocks only, and answers runtime calls at no others. -/

/-- The head of a node, and the blocks whose states it keeps. -/
structure PruningNode (S : BlockStore RT) where
  head : Head S
  kept : Hash → Prop
  best_kept : kept head.best.hash

/-- The client of a node that prunes: the head moves and states are dropped at any time, but that of the best block is
kept. -/
def pruningEnv (P : Pallets RT Label E) (S : BlockStore RT) : Env (PruningNode S) (Request RT) Request.Response where
  move _ _ := True
  answer node
    | .info, r => r = node.head.info
    | .call hash call, r => (∃ e, r = .error e) ∨
        node.kept hash ∧ ∃ b, S.get hash = some b ∧ r = .ok (call.eval P b.state)

/-- The calls of a server on such a node. -/
abbrev PruningServer (ι : Type) (S : BlockStore RT) : Type :=
  Pool ι (PruningNode S) (Request RT) Request.Response (RpcResult Reply)

abbrev PruningEvent (ι : Type) (S : BlockStore RT) : Type :=
  Event ι PnsCall (PruningNode S) (Request RT) Request.Response (RpcResult Reply)

abbrev PendingCall (ι : Type) (S : BlockStore RT) : Type :=
  Pending ι PnsCall (PruningNode S) (Request RT) Request.Response (RpcResult Reply)

/-- The head that a call in flight replies for: that of its snapshot, or the current one when it has taken none. -/
def snapshotHead {S : BlockStore RT} (A : PendingCall ι S) (node : PruningNode S) : Head S :=
  (A.exchanges.head?.map fun x => x.world.head).getD node.head

/-- The call has lost its block: its runtime call failed, or is still to come while the state of the block is gone. -/
def Lost {S : BlockStore RT} (A : PendingCall ι S) (node : PruningNode S) : Prop :=
  (∃ x ∈ A.exchanges, Failed x) ∨ A.exchanges.length < 2 ∧ ¬ node.kept (snapshotHead A node).best.hash

section Nodes

variable {P : Pallets RT Label E} {T : RecordTypes Hickory RT} {S : BlockStore RT} {node : PruningNode S}

section Lost

variable {A : PendingCall ι S} {snapshot : Head S}
  {x y : Exchange (PruningNode S) (Request RT) Request.Response}

theorem snapshotHead_of_nil (h : A.exchanges = []) : snapshotHead A node = node.head := by
  rw [snapshotHead, h]
  rfl

theorem snapshotHead_of_cons {xs : List (Exchange (PruningNode S) (Request RT) Request.Response)}
    (h : A.exchanges = x :: xs) (hx : x.map PruningNode.head = ⟨snapshot, .info, snapshot.info⟩) :
    snapshotHead A node = snapshot := by
  rw [snapshotHead, h]
  exact congrArg Exchange.world hx

theorem not_failed_of_info (hx : x.map PruningNode.head = ⟨snapshot, .info, snapshot.info⟩) : ¬ Failed x := by
  rw [← failed_map (f := PruningNode.head), hx]
  exact id

theorem not_lost_of_nil (h : A.exchanges = []) : ¬ Lost A node := by
  rw [Lost, snapshotHead_of_nil h, h]
  rintro (⟨x, hx, -⟩ | ⟨-, hgone⟩)
  · cases hx
  · exact hgone node.best_kept

/-- With its snapshot taken, a call is lost when the block of the snapshot is gone. -/
theorem lost_of_singleton (h : A.exchanges = [x]) (hx : x.map PruningNode.head = ⟨snapshot, .info, snapshot.info⟩) :
    Lost A node ↔ ¬ node.kept snapshot.best.hash := by
  rw [Lost, snapshotHead_of_cons h hx, h]
  simp [not_failed_of_info hx]

/-- With nothing left to ask, a call is lost when its runtime call failed. -/
theorem lost_of_pair (h : A.exchanges = [x, y]) (hx : x.map PruningNode.head = ⟨snapshot, .info, snapshot.info⟩) :
    Lost A node ↔ Failed y := by
  rw [Lost, h]
  simp [not_failed_of_info hx]

end Lost

theorem clientEnv_of_pruningEnv {q : Request RT} {r : q.Response} (h : (pruningEnv P S).answer node q r) :
    (clientEnv P S).answer node.head q r := by
  cases q with
  | info => exact h
  | call hash call =>
    rcases h with herr | ⟨-, hok⟩
    · exact Or.inl herr
    · exact Or.inr hok

theorem answer_of_kept {hash : Hash} {b : Block RT} (hkept : node.kept hash) (hb : S.get hash = some b)
    (call : ApiCall RT) : (pruningEnv P S).answer node (.call hash call) (.ok (call.eval P b.state)) :=
  Or.inr ⟨hkept, b, hb, rfl⟩

/-- A call that has asked nothing takes its snapshot, and reads the best block. -/
theorem called_ends (P : Pallets RT Label E) (T : RecordTypes Hickory RT) (node : PruningNode S) (c : PnsCall) :
    ∃ tr, Run (pruningEnv P S).frozen node (readAtBest (c.apiCall T) (c.finish T)) tr (.ok (replyAt P T node.head c)) ∧
      tr.length = 2 := by
  have hinfo : (pruningEnv P S).answer node .info node.head.info := rfl
  have hread := answer_of_kept (P := P) node.best_kept node.head.get_best (c.apiCall T)
  exact ⟨_, .ask hinfo (.ask hread .ret), rfl⟩

/-- A call that has taken its snapshot ends for it, unless the state of its block is gone. -/
theorem reading_ends (P : Pallets RT Label E) (T : RecordTypes Hickory RT) (node : PruningNode S) (snapshot : Head S)
    (c : PnsCall) :
    ∃ tr res, Run (pruningEnv P S).frozen node
      (.ask (.call snapshot.best.hash (c.apiCall T)) fun answer => .ret (c.finish T snapshot.info answer)) tr res ∧
      tr.length = 1 ∧ (node.kept snapshot.best.hash → res = .ok (replyAt P T snapshot c)) ∧
      (¬ node.kept snapshot.best.hash → ∃ e, res = .error (runtimeError e)) := by
  by_cases hkept : node.kept snapshot.best.hash
  · refine ⟨_, _, .ask (answer_of_kept hkept snapshot.get_best _) .ret, rfl, fun _ => rfl, fun hgone => ?_⟩
    exact absurd hkept hgone
  · refine ⟨_, _, .ask (Or.inl ⟨⟨"UnknownBlock"⟩, rfl⟩) .ret, rfl, fun hkept' => absurd hkept' hkept, fun _ => ?_⟩
    exact ⟨_, rfl⟩

end Nodes

/-- **No call is stuck.**  On a node that prunes its blocks, every call in flight can end without waiting for another
call or for the head, with at most two questions in all: with its refusal, or with the reply for the head of its
snapshot, or with a runtime error if it has lost the block of that head. -/
theorem server_never_stuck (P : Pallets RT Label E) (T : RecordTypes Hickory RT) (S : BlockStore RT)
    (s s' : PruningServer ι S) (evs : List (PruningEvent ι S)) (h : History (pruningEnv P S) (serve T) s evs s')
    (A : PendingCall ι S) (hA : A.In evs) :
    ∃ (more : List (Exchange (PruningNode S) (Request RT) Request.Response)) (res : RpcResult Reply)
        (s'' : PruningServer ι S),
      History (pruningEnv P S) (serve T) s' (more.map (.asked A.id) ++ [.returned A.id res]) s'' ∧
      A.exchanges.length + more.length ≤ 2 ∧
      (∀ e, A.request.refusal = some e → res = .error e) ∧
      (A.request.refusal = none →
        (¬ Lost A s'.world → res = .ok (replyAt P T (snapshotHead A s'.world) A.request)) ∧
        (Lost A s'.world → ∃ e, res = .error (runtimeError e))) := by
  obtain ⟨w, p, hp, hbegun⟩ := h.begun_of_pending hA
  have hstage : Stage P T S A.request (A.exchanges.map (Exchange.map PruningNode.head)) p :=
    stage_of_begun (hbegun.map (fun _ _ _ => trivial) fun _ _ _ => clientEnv_of_pruningEnv)
  generalize htr : A.exchanges.map (Exchange.map PruningNode.head) = tr at hstage
  cases hstage with
  | @refused e hc =>
    obtain ⟨s'', hend⟩ := History.of_frozen_run (serve T) hp .ret
    rw [List.map_eq_nil_iff] at htr
    refine ⟨[], _, s'', hend, by simp [htr], fun e' he' => ?_, fun hnone => ?_⟩
    · obtain rfl : e = e' := Option.some_inj.mp (hc.symm.trans he')
      rfl
    · rw [hc] at hnone
      cases hnone
  | called hc =>
    -- it takes its snapshot now, of a head whose block is kept
    rw [List.map_eq_nil_iff] at htr
    obtain ⟨more, hrun, hlen⟩ := called_ends P T s'.world A.request
    obtain ⟨s'', hend⟩ := History.of_frozen_run (serve T) hp hrun
    refine ⟨more, _, s'', hend, by simp [htr, hlen], fun e he => ?_, fun _ => ⟨fun _ => ?_, fun hlost => ?_⟩⟩
    · rw [hc] at he
      cases he
    · rw [snapshotHead_of_nil htr]
    · exact absurd hlost (not_lost_of_nil htr)
  | reading snapshot hc =>
    -- it reads the block of its snapshot, if that is still there
    obtain ⟨x, hx, hxs⟩ := List.map_eq_singleton_iff.mp htr
    obtain ⟨more, res, hrun, hlen, hkept, hgone⟩ := reading_ends P T s'.world snapshot A.request
    obtain ⟨s'', hend⟩ := History.of_frozen_run (serve T) hp hrun
    refine ⟨more, res, s'', hend, by simp [hx, hlen], fun e he => ?_, fun _ => ?_⟩
    · rw [hc] at he
      cases he
    · rw [snapshotHead_of_cons hx hxs, lost_of_singleton hx hxs, not_not]
      exact ⟨hkept, hgone⟩
  | answered snapshot asked answer hc hanswer =>
    -- it has its answer, and only returns
    obtain ⟨x, xs, hx, hxs, htr⟩ := List.map_eq_cons_iff.mp htr
    obtain ⟨y, rfl, hy⟩ := List.map_eq_singleton_iff.mp htr
    have hfailed : Failed y ↔ ∃ e, answer = .error e := by
      rw [← failed_map (f := PruningNode.head), hy]
      exact Iff.rfl
    obtain ⟨s'', hend⟩ := History.of_frozen_run (serve T) hp .ret
    refine ⟨[], _, s'', hend, by simp [hx], fun e he => ?_, fun _ => ?_⟩
    · rw [hc] at he
      cases he
    · rw [snapshotHead_of_cons hx hxs, lost_of_pair hx hxs, hfailed]
      rcases hanswer with ⟨e, rfl⟩ | rfl
      · exact ⟨fun hno => absurd ⟨e, rfl⟩ hno, fun _ => ⟨e, rfl⟩⟩
      · exact ⟨fun _ => rfl, by rintro ⟨e, he⟩; cases he⟩

/-- A node at block 2 that keeps the states of both blocks, and one that has dropped that of block 1. -/
def archiveNode : PruningNode giftBlocks := ⟨headTwo, fun _ => True, trivial⟩
def prunedNode : PruningNode giftBlocks := ⟨headTwo, fun hash => hash = 102, rfl⟩

/-- A call for `b"gift"` that has taken its snapshot at block 1 when the node gets to block 2. -/
def caughtCall (node : PruningNode giftBlocks) : PendingCall ℕ giftBlocks where
  before := []
  id := 0
  request := .getInfo giftNode
  during := [.asked 0 ⟨⟨headOne, fun _ => True, trivial⟩, .info, headOne.info⟩, .moved node]

def caughtServer : PruningServer ℕ giftBlocks where
  world := ⟨headOne, fun _ => True, trivial⟩

theorem caughtHistory (node : PruningNode giftBlocks) :
    ∃ s', History (pruningEnv Pallets.reference giftBlocks) (serve RecordTypes.reference) caughtServer
        (.invoked 0 (.getInfo giftNode) :: (caughtCall node).during) s' ∧ s'.world = node :=
  ⟨_, .cons (.invoked _ rfl) (.cons (.asked rfl rfl) (.cons (.moved trivial) .nil)), rfl⟩

/-- The archive node can still reply for block 1, and the other one can only report an error. -/
theorem server_never_stuck_gift :
    (∃ (s' s'' : PruningServer ℕ giftBlocks) (more : List _),
      History (pruningEnv Pallets.reference giftBlocks) (serve RecordTypes.reference) caughtServer
        (.invoked 0 (.getInfo giftNode) :: (caughtCall archiveNode).during) s' ∧
      History (pruningEnv Pallets.reference giftBlocks) (serve RecordTypes.reference) s'
        (more.map (.asked 0) ++
          [.returned 0 (.ok (replyAt Pallets.reference RecordTypes.reference headOne (.getInfo giftNode)))]) s'') ∧
    ∃ (s' s'' : PruningServer ℕ giftBlocks) (more : List _) (e : ApiError),
      History (pruningEnv Pallets.reference giftBlocks) (serve RecordTypes.reference) caughtServer
        (.invoked 0 (.getInfo giftNode) :: (caughtCall prunedNode).during) s' ∧
      History (pruningEnv Pallets.reference giftBlocks) (serve RecordTypes.reference) s'
        (more.map (.asked 0) ++ [.returned 0 (.error (runtimeError e))]) s'' := by
  constructor
  · -- the state of block 1 is kept
    obtain ⟨s', h, hworld⟩ := caughtHistory archiveNode
    obtain ⟨more, res, s'', hend, -, -, hres⟩ := server_never_stuck Pallets.reference RecordTypes.reference giftBlocks
      caughtServer s' _ h (caughtCall archiveNode) ⟨rfl, fun b hb => by simp [caughtCall] at hb⟩
    have hlost : ¬ Lost (caughtCall archiveNode) s'.world := by
      rw [hworld]
      rintro (⟨x, hx, hfailed⟩ | ⟨-, hgone⟩)
      · obtain rfl := List.mem_singleton.mp hx
        exact hfailed
      · exact hgone trivial
    obtain rfl := (hres rfl).1 hlost
    exact ⟨s', s'', more, h, hend⟩
  · -- the state of block 1 is gone
    obtain ⟨s', h, hworld⟩ := caughtHistory prunedNode
    obtain ⟨more, res, s'', hend, -, -, hres⟩ := server_never_stuck Pallets.reference RecordTypes.reference giftBlocks
      caughtServer s' _ h (caughtCall prunedNode) ⟨rfl, fun b hb => by simp [caughtCall] at hb⟩
    have hlost : Lost (caughtCall prunedNode) s'.world := by
      rw [hworld]
      exact Or.inr ⟨Nat.one_lt_two, show ¬ ((101 : Hash) = 102) by decide⟩
    obtain ⟨e, rfl⟩ := (hres rfl).2 hlost
    exact ⟨s', s'', more, e, h, hend⟩

end Server

end PaseoNode.Node
