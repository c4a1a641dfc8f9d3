import PaseoNode.Node.Server
import PaseoNode.Runtime.Gate
import PaseoNode.Runtime.Visibility

/-!
# What a client learns from several calls

A client compares replies of calls that ran at different times, side by side with the calls of others.

* `stamps_agree` — the stamp of a reply decides it: records and listings of a name with one stamp come from one
  state;
* `served_owner_can_write` — a served record names its block, and an owner who passes the write gate on the
  state of that block, at every time before the expiry;
* `lookup_replies_are_rows` — a reply to a lookup is the set of stored rows of one best block;
* `quiet_reads_have_no_gap` — while the rows of a name stand and time passes, a name that was visible to an
  earlier and to a later call is visible to every call between the two.
-/

namespace PaseoNode.Node

open PaseoNode.Lib PaseoNode.Runtime

variable {RT Label E Hickory : Type}

/-! ### Names and their calls -/

/-- The node whose record the call asks for. -/
def PnsCall.recordNode (P : Pallets RT Label E) : PnsCall → Option DomainHash
  | .getInfo node => some node
  | .resolveName name => labelNode P (intoBytes name)
  | _ => none

/-- The node whose listing the call asks for. -/
def PnsCall.listingNode (P : Pallets RT Label E) : PnsCall → Option DomainHash
  | .getListing name => labelNode P (intoBytes name)
  | _ => none

/-- The node and the codes that the call looks up.  A name that does not parse is looked up at the all-zero node. -/
def PnsCall.lookupOf (P : Pallets RT Label E) : PnsCall → Option (DomainHash × List UInt32)
  | .lookup node recordTypes => some (node, recordTypes)
  | .lookupByName name recordTypes =>
    some ((P.parseNameToNode (intoBytes name) P.nativeBasenode).getD default, recordTypes)
  | _ => none

section Replies

variable {P : Pallets RT Label E} {T : RecordTypes Hickory RT} {S : BlockStore RT} {head : Head S} {c : PnsCall}
  {node : DomainHash}

theorem replyAt_of_recordNode (h : c.recordNode P = some node) :
    replyAt P T head c = .record ((Runtime.getInfo head.best.state node).map (stampRecord head.info)) := by
  cases c with
  | getInfo n =>
    obtain rfl : n = node := Option.some_inj.mp h
    rfl
  | resolveName name =>
    have hresolve : Runtime.resolveName P head.best.state (intoBytes name) = Runtime.getInfo head.best.state node :=
      resolveName_of_label h
    rw [← hresolve]
    rfl
  | _ => cases h

theorem replyAt_of_listingNode (h : c.listingNode P = some node) :
    replyAt P T head c =
      .listing (((head.best.state.listings node).map listingInfo).map (stampListing head.info)) := by
  cases c with
  | getListing name =>
    have hlisting : Runtime.getListing P head.best.state (intoBytes name) =
        (head.best.state.listings node).map listingInfo := getListing_of_label h
    rw [← hlisting]
    rfl
  | _ => cases h

theorem replyAt_eq_record {r : NameRecord} (h : c.recordNode P = some node)
    (hr : replyAt P T head c = .record (some r)) :
    ∃ r₀, Runtime.getInfo head.best.state node = some r₀ ∧ r = stampRecord head.info r₀ := by
  rw [replyAt_of_recordNode h, Reply.record.injEq, Option.map_eq_some_iff] at hr
  obtain ⟨r₀, hr₀, rfl⟩ := hr
  exact ⟨r₀, hr₀, rfl⟩

theorem replyAt_eq_listing {l : ListingInfo} (h : c.listingNode P = some node)
    (hl : replyAt P T head c = .listing (some l)) :
    ∃ row, head.best.state.listings node = some row ∧ l = stampListing head.info (listingInfo row) := by
  rw [replyAt_of_listingNode h, Reply.listing.injEq, Option.map_eq_some_iff] at hl
  obtain ⟨l₀, hl₀, rfl⟩ := hl
  rw [Option.map_eq_some_iff] at hl₀
  obtain ⟨row, hrow, rfl⟩ := hl₀
  exact ⟨row, hrow, rfl⟩

theorem Head.best_eq {head head' : Head S} (h : head.best.hash = head'.best.hash) : head.best = head'.best := by
  have hget := head.get_best
  rw [h, head'.get_best] at hget
  exact (Option.some_inj.mp hget).symm

variable {ι : Type} [DecidableEq ι] {s s' : Server ι S} {evs : List (ServerEvent ι S)} {A : ServerCall ι S}

/-- A call that replies does so from a head that it saw. -/
theorem reply_from_head (h : History (clientEnv P S) (serve T) s evs s') (hA : A.In evs) {reply : Reply}
    (hres : A.result = .ok reply) : ∃ x ∈ A.exchanges, replyAt P T x.world A.request = reply := by
  obtain ⟨w, hrun⟩ := h.run_of_call hA
  rw [hres] at hrun
  obtain ⟨x, hx, hreply⟩ := replyAt_of_run hrun
  exact ⟨x, hx, hreply.symm⟩

/-- A call within the limits replies, unless its runtime call fails. -/
theorem replies_of_not_failed (h : History (clientEnv P S) (serve T) s evs s') (hA : A.In evs)
    (hlimits : A.request.WithinLimits) (hfailed : ∀ x ∈ A.exchanges, ¬ Failed x) :
    ∃ reply, A.result = .ok reply := by
  obtain ⟨w, hrun⟩ := h.run_of_call hA
  rcases run_serve hrun with ⟨e, hc, -, -⟩ | ⟨-, snapshot, asked, answer, htr, ⟨e, he, -⟩ | ⟨-, hres⟩⟩
  · rw [PnsCall.refusal_eq_none_iff.mpr hlimits] at hc
    cases hc
  · rw [htr] at hfailed
    exact absurd ⟨e, he⟩ (hfailed _ (List.mem_cons_of_mem _ List.mem_cons_self))
  · exact ⟨_, hres⟩

end Replies

/-! ### A session

One client makes its calls one after the other, and the head moves once. -/

section Alone

variable {S : BlockStore RT}

/-- The exchanges of an accepted call on a head that stands still. -/
def readEvents (P : Pallets RT Label E) (T : RecordTypes Hickory RT) (head : Head S) (c : PnsCall) :
    List (ServerEvent ℕ S) :=
  [.asked 0 ⟨head, .info, head.info⟩,
    .asked 0 ⟨head, .call head.best.hash (c.apiCall T), .ok ((c.apiCall T).eval P head.best.state)⟩]

/-- A call made on a head that stands still, between the events `before` and `after`. -/
def callAlone (P : Pallets RT Label E) (T : RecordTypes Hickory RT) (head : Head S) (c : PnsCall)
    (before after : List (ServerEvent ℕ S)) : ServerCall ℕ S where
  before := before
  id := 0
  request := c
  during := readEvents P T head c
  result := .ok (replyAt P T head c)
  after := after

def callEvents (P : Pallets RT Label E) (T : RecordTypes Hickory RT) (head : Head S) (c : PnsCall) :
    List (ServerEvent ℕ S) := (callAlone P T head c [] []).upToReturn

variable {P : Pallets RT Label E} {T : RecordTypes Hickory RT}

theorem callAlone_in (head : Head S) (c : PnsCall) (before after : List (ServerEvent ℕ S)) :
    (callAlone P T head c before after).In (before ++ (callEvents P T head c ++ after)) where
  events := by simp [callEvents, callAlone, Call.upToReturn]
  first b hb := by simp [callAlone, readEvents] at hb

theorem callAlone_not_failed (head : Head S) (c : PnsCall) (before after : List (ServerEvent ℕ S)) :
    ∀ x ∈ (callAlone P T head c before after).exchanges, ¬ Failed x := by
  have hexchanges : (callAlone P T head c before after).exchanges = [⟨head, .info, head.info⟩,
      ⟨head, .call head.best.hash (c.apiCall T), .ok ((c.apiCall T).eval P head.best.state)⟩] := rfl
  intro x hx
  rw [hexchanges] at hx
  rcases List.mem_cons.mp hx with rfl | hx
  · exact id
  · rw [List.mem_singleton.mp hx]
    rintro ⟨e, he⟩
    cases he

/-- A server with no call in flight can run one, in every world that answers as the client does. -/
theorem history_callEvents {env : Env (Head S) (Request RT) Request.Response}
    (henv : env.answer = (clientEnv P S).answer) {s : Server ℕ S} (hs : s.running 0 = none) {c : PnsCall}
    (hc : c.refusal = none) :
    ∃ s', History env (serve T) s (callEvents P T s.world c) s' ∧ s'.world = s.world ∧ s'.running 0 = none := by
  have hcall : env.answer s.world (.call s.world.best.hash (c.apiCall T))
      (.ok ((c.apiCall T).eval P s.world.best.state)) := by
    rw [henv]
    exact Or.inr ⟨s.world.best, s.world.get_best, rfl⟩
  have hinfo : env.answer s.world .info s.world.info := by
    rw [henv]
    rfl
  have hbody : (s.set 0 (some (serve T c))).running 0 =
      some (.ask .info fun chain => .ask (.call chain.bestHash (c.apiCall T)) fun answer =>
        .ret (c.finish T chain answer)) := by
    rw [Pool.set_running, serve_of_accepted hc, readAtBest]
  refine ⟨_, .cons (.invoked c hs) (.cons (.asked hbody hinfo) (.cons (.asked (Pool.set_running _) hcall)
    (.cons (.returned (Pool.set_running _)) .nil))), rfl, Pool.set_running _⟩

end Alone

/-- `b"gift"` for sale, with an address record. -/
def shopStorage (now : Moment) : Storage UInt16 :=
  .single now giftNode
    { info := some (registration 10), token := some ⟨7⟩, listing := some ⟨7, 1000, 9⟩
      records := fun t => if t = 1 then some [192, 0, 2, 1] else none }

def shopBlocks : BlockStore UInt16 := .ofList [⟨201, 1, shopStorage 3⟩, ⟨202, 2, shopStorage 4⟩]

def shopOne : Head shopBlocks := ⟨⟨201, 1, shopStorage 3⟩, rfl⟩
def shopTwo : Head shopBlocks := ⟨⟨202, 2, shopStorage 4⟩, rfl⟩

def shopRecord (now : Moment) : NameRecord := nameRecord (shopStorage now) giftNode (registration 10) ⟨7⟩

def shopServer : Server ℕ shopBlocks where
  world := shopOne

def shopEvents (head : Head shopBlocks) (c : PnsCall) : List (ServerEvent ℕ shopBlocks) :=
  callEvents Pallets.reference RecordTypes.reference head c

/-- `getInfo` on the first block, the other calls on the second. -/
def shopSession : List (ServerEvent ℕ shopBlocks) :=
  shopEvents shopOne (.getInfo giftNode) ++ ([.moved shopTwo] ++ (shopEvents shopTwo (.resolveName "gift") ++
    (shopEvents shopTwo (.getListing "gift") ++ (shopEvents shopTwo (.lookup giftNode [1, 28]) ++
      shopEvents shopTwo (.getInfo giftNode)))))

theorem getInfo_shop {now : Moment} (h : now < 10) :
    Runtime.getInfo (shopStorage now) giftNode = some (shopRecord now) := by
  rw [getInfo_eq_some_iff]
  refine ⟨not_offerLive_of_no_row ?_, registration 10, ⟨7⟩, ?_, h, ?_, rfl⟩ <;> simp [shopStorage]

theorem shop_history (env : Env (Head shopBlocks) (Request UInt16) Request.Response)
    (henv : env.answer = (clientEnv Pallets.reference shopBlocks).answer) (hmove : env.move shopOne shopTwo) :
    ∃ s', History env (serve RecordTypes.reference) shopServer shopSession s' := by
  have next : ∀ (s : Server ℕ shopBlocks) (c : PnsCall), s.world = shopTwo → s.running 0 = none → c.refusal = none →
      ∃ s', History env (serve RecordTypes.reference) s (shopEvents shopTwo c) s' ∧ s'.world = shopTwo ∧
        s'.running 0 = none := by
    intro s c hworld hrunning hc
    obtain ⟨s', h, hworld', hrunning'⟩ :=
      history_callEvents (P := Pallets.reference) (T := RecordTypes.reference) henv hrunning hc
    rw [hworld] at h hworld'
    exact ⟨s', h, hworld', hrunning'⟩
  have hname : "gift".utf8ByteSize ≤ 128 := by decide
  obtain ⟨s₁, h₁, hworld₁, hrunning₁⟩ := history_callEvents (P := Pallets.reference) (T := RecordTypes.reference) henv
    (s := shopServer) rfl (c := .getInfo giftNode) rfl
  have hmoved : History env (serve RecordTypes.reference) s₁ [.moved shopTwo] { s₁ with world := shopTwo } :=
    .cons (.moved (by rw [hworld₁]; exact hmove)) .nil
  obtain ⟨s₂, h₂, hworld₂, hrunning₂⟩ := next { s₁ with world := shopTwo } (.resolveName "gift") rfl hrunning₁
    (nameRefusal_eq_none_iff.mpr hname)
  obtain ⟨s₃, h₃, hworld₃, hrunning₃⟩ := next s₂ (.getListing "gift") hworld₂ hrunning₂
    (nameRefusal_eq_none_iff.mpr hname)
  obtain ⟨s₄, h₄, hworld₄, hrunning₄⟩ := next s₃ (.lookup giftNode [1, 28]) hworld₃ hrunning₃
    (typesRefusal_eq_none_iff.mpr (by decide))
  obtain ⟨s₅, h₅, -, -⟩ := next s₄ (.getInfo giftNode) hworld₄ hrunning₄ rfl
  refine ⟨s₅, History.append_iff.mpr ⟨s₁, h₁, History.append_iff.mpr ⟨_, hmoved, History.append_iff.mpr ⟨s₂, h₂,
    History.append_iff.mpr ⟨s₃, h₃, History.append_iff.mpr ⟨s₄, h₄, h₅⟩⟩⟩⟩⟩⟩

/-- A call of the session, given what comes before and after it. -/
def shopCall (head : Head shopBlocks) (c : PnsCall) (before after : List (ServerEvent ℕ shopBlocks)) :
    ServerCall ℕ shopBlocks := callAlone Pallets.reference RecordTypes.reference head c before after

def firstCall : ServerCall ℕ shopBlocks := shopCall shopOne (.getInfo giftNode) []
  ([.moved shopTwo] ++ (shopEvents shopTwo (.resolveName "gift") ++ (shopEvents shopTwo (.getListing "gift") ++
    (shopEvents shopTwo (.lookup giftNode [1, 28]) ++ shopEvents shopTwo (.getInfo giftNode)))))

def resolveCall : ServerCall ℕ shopBlocks := shopCall shopTwo (.resolveName "gift")
  (shopEvents shopOne (.getInfo giftNode) ++ [.moved shopTwo])
  (shopEvents shopTwo (.getListing "gift") ++ (shopEvents shopTwo (.lookup giftNode [1, 28]) ++
    shopEvents shopTwo (.getInfo giftNode)))

def listingCall : ServerCall ℕ shopBlocks := shopCall shopTwo (.getListing "gift")
  (shopEvents shopOne (.getInfo giftNode) ++ ([.moved shopTwo] ++ shopEvents shopTwo (.resolveName "gift")))
  (shopEvents shopTwo (.lookup giftNode [1, 28]) ++ shopEvents shopTwo (.getInfo giftNode))

def lookupCall : ServerCall ℕ shopBlocks := shopCall shopTwo (.lookup giftNode [1, 28])
  (shopEvents shopOne (.getInfo giftNode) ++ ([.moved shopTwo] ++ (shopEvents shopTwo (.resolveName "gift") ++
    shopEvents shopTwo (.getListing "gift"))))
  (shopEvents shopTwo (.getInfo giftNode))

def lastCall : ServerCall ℕ shopBlocks := shopCall shopTwo (.getInfo giftNode)
  (shopEvents shopOne (.getInfo giftNode) ++ ([.moved shopTwo] ++ (shopEvents shopTwo (.resolveName "gift") ++
    (shopEvents shopTwo (.getListing "gift") ++ shopEvents shopTwo (.lookup giftNode [1, 28]))))) []

theorem firstCall_in : firstCall.In shopSession := callAlone_in shopOne _ _ _
theorem resolveCall_in : resolveCall.In shopSession := callAlone_in shopTwo _ _ _
theorem listingCall_in : listingCall.In shopSession := callAlone_in shopTwo _ _ _
theorem lookupCall_in : lookupCall.In shopSession := callAlone_in shopTwo _ _ _
theorem lastCall_in : lastCall.In shopSession := callAlone_in shopTwo _ _ _

theorem recordNode_resolve : (PnsCall.resolveName "gift").recordNode Pallets.reference = some giftNode := by
  rw [PnsCall.recordNode, intoBytes_gift, labelNode_gift]

theorem recordNode_getInfo : (PnsCall.getInfo giftNode).recordNode Pallets.reference = some giftNode := rfl

theorem firstCall_result : firstCall.result = .ok (.record (some (stampRecord shopOne.info (shopRecord 3)))) := by
  change Except.ok (replyAt Pallets.reference RecordTypes.reference shopOne (.getInfo giftNode)) = _
  rw [replyAt_of_recordNode recordNode_getInfo, shopOne, getInfo_shop (by decide)]
  rfl

theorem resolveCall_result : resolveCall.result = .ok (.record (some (stampRecord shopTwo.info (shopRecord 4)))) := by
  change Except.ok (replyAt Pallets.reference RecordTypes.reference shopTwo (.resolveName "gift")) = _
  rw [replyAt_of_recordNode recordNode_resolve, shopTwo, getInfo_shop (by decide)]
  rfl

theorem lastCall_result : lastCall.result = .ok (.record (some (stampRecord shopTwo.info (shopRecord 4)))) := by
  change Except.ok (replyAt Pallets.reference RecordTypes.reference shopTwo (.getInfo giftNode)) = _
  rw [replyAt_of_recordNode recordNode_getInfo, shopTwo, getInfo_shop (by decide)]
  rfl

theorem lookupOf_lookupCall : lookupCall.request.lookupOf Pallets.reference = some (giftNode, [1, 28]) := rfl

theorem addressCodes_narrow : ∀ code ∈ [(1 : UInt32), 28], code.toNat < 2 ^ 16 := by
  intro code hcode
  rcases List.mem_cons.mp hcode with rfl | hcode
  · decide
  · rw [List.mem_singleton.mp hcode]
    decide

section Sessions

variable {ι : Type} [DecidableEq ι]

/-! ### Stamps -/

/-- **A stamp decides what it stands on.**  Records of one node with one stamp are equal, whichever methods and
calls they came from; and a listing with the stamp of a record says that the record is for sale. -/
theorem stamps_agree (P : Pallets RT Label E) (T : RecordTypes Hickory RT) (S : BlockStore RT)
    (s s' : Server ι S) (evs : List (ServerEvent ι S)) (h : History (clientEnv P S) (serve T) s evs s')
    (A B : ServerCall ι S) (hA : A.In evs) (hB : B.In evs) (node : DomainHash)
    (hnode : A.request.recordNode P = some node) (r : NameRecord) (hr : A.result = .ok (.record (some r))) :
    (∀ r', B.request.recordNode P = some node → B.result = .ok (.record (some r')) →
      r.readBlockHash = r'.readBlockHash → r = r') ∧
    ∀ l, B.request.listingNode P = some node → B.result = .ok (.listing (some l)) →
      r.readBlockHash = l.readBlockHash → r.forSale = true ∧ r.readBlockNumber = l.readBlockNumber := by
  obtain ⟨x, -, hx⟩ := reply_from_head h hA hr
  obtain ⟨r₀, hr₀, rfl⟩ := replyAt_eq_record hnode hx
  constructor
  · -- two records: one hash is one block, and the runtime answers the same there
    intro r' hnode' hr' hstamp
    obtain ⟨y, -, hy⟩ := reply_from_head h hB hr'
    obtain ⟨r₁, hr₁, rfl⟩ := replyAt_eq_record hnode' hy
    have hbest : x.world.best = y.world.best := Head.best_eq hstamp
    have hrecord : r₀ = r₁ := by
      rw [hbest, hr₁] at hr₀
      exact (Option.some_inj.mp hr₀).symm
    rw [hrecord, Head.info, Head.info, hbest]
  · -- a listing: its row stands in the state that the record was read from
    intro l hnode' hl hstamp
    obtain ⟨y, -, hy⟩ := reply_from_head h hB hl
    obtain ⟨row, hrow, rfl⟩ := replyAt_eq_listing hnode' hy
    have hbest : x.world.best = y.world.best := Head.best_eq hstamp
    obtain ⟨-, info, token, -, -, -, rfl⟩ := getInfo_eq_some_iff.mp hr₀
    have hforSale : (x.world.best.state.listings node).isSome = true := by
      rw [hbest, hrow]
      rfl
    have hnumber : x.world.best.number = y.world.best.number := by rw [hbest]
    exact ⟨hforSale, hnumber⟩

theorem stamps_agree_shop :
    ∃ s', History (clientEnv Pallets.reference shopBlocks) (serve RecordTypes.reference) shopServer shopSession s' ∧
    lastCall.result = .ok (.record (some (stampRecord shopTwo.info (shopRecord 4)))) ∧
    (∀ r', lastCall.request.recordNode Pallets.reference = some giftNode →
      lastCall.result = .ok (.record (some r')) →
        (stampRecord shopTwo.info (shopRecord 4)).readBlockHash = r'.readBlockHash →
          stampRecord shopTwo.info (shopRecord 4) = r') ∧
    ∀ l, listingCall.request.listingNode Pallets.reference = some giftNode →
      listingCall.result = .ok (.listing (some l)) →
        (stampRecord shopTwo.info (shopRecord 4)).readBlockHash = l.readBlockHash →
          (stampRecord shopTwo.info (shopRecord 4)).forSale = true ∧
            (stampRecord shopTwo.info (shopRecord 4)).readBlockNumber = l.readBlockNumber := by
  obtain ⟨s', h⟩ := shop_history (clientEnv Pallets.reference shopBlocks) rfl trivial
  -- the record of `resolveCall` against that of `lastCall`, and against the listing of `listingCall`
  have hrecords := stamps_agree Pallets.reference RecordTypes.reference shopBlocks shopServer s' shopSession h resolveCall
    lastCall resolveCall_in lastCall_in giftNode recordNode_resolve _ resolveCall_result
  have hlistings := stamps_agree Pallets.reference RecordTypes.reference shopBlocks shopServer s' shopSession h resolveCall
    listingCall resolveCall_in listingCall_in giftNode recordNode_resolve _ resolveCall_result
  exact ⟨s', h, lastCall_result, hrecords.1, hlistings.2⟩

/-! ### Owners -/

/-- **The owner of a served record can write**: the stamp names a block, on whose state the record is visible,
and there the owner passes the write gate at every time before the expiry. -/
theorem served_owner_can_write (P : Pallets RT Label E) (hv : VerifiesOwner P) (he : UseableBeforeExpiry P)
    (T : RecordTypes Hickory RT) (S : BlockStore RT) (s s' : Server ι S) (evs : List (ServerEvent ι S))
    (h : History (clientEnv P S) (serve T) s evs s') (A : ServerCall ι S) (hA : A.In evs) (node : DomainHash)
    (hnode : A.request.recordNode P = some node) (r : NameRecord) (hr : A.result = .ok (.record (some r))) :
    ∃ b, S.get r.readBlockHash = some b ∧ b.number = r.readBlockNumber ∧ Visible b.state node ∧
      b.state.now < r.expire ∧
      ∀ now, now < r.expire → checkNodeUseable P (b.state.withNow now) node r.owner = true := by
  obtain ⟨x, -, hx⟩ := reply_from_head h hA hr
  obtain ⟨r₀, hr₀, rfl⟩ := replyAt_eq_record hnode hx
  have hvisible : Visible x.world.best.state node := by
    rw [← getInfo_isSome_iff, hr₀]
    rfl
  obtain ⟨-, info, token, hinfo, hlt, htoken, rfl⟩ := getInfo_eq_some_iff.mp hr₀
  refine ⟨x.world.best, x.world.get_best, rfl, hvisible, hlt, fun now hnow => ?_⟩
  rw [checkNodeUseable_eq_true]
  refine ⟨hv _ node token htoken, fun info' hinfo' => ?_⟩
  obtain rfl : info = info' := Option.some_inj.mp (hinfo.symm.trans hinfo')
  exact he _ node info hinfo hnow

theorem served_owner_can_write_shop :
    ∃ b, shopBlocks.get (stampRecord shopTwo.info (shopRecord 4)).readBlockHash = some b ∧
      b.number = (stampRecord shopTwo.info (shopRecord 4)).readBlockNumber ∧ Visible b.state giftNode ∧
      b.state.now < (stampRecord shopTwo.info (shopRecord 4)).expire ∧
      ∀ now, now < (stampRecord shopTwo.info (shopRecord 4)).expire →
        checkNodeUseable Pallets.reference (b.state.withNow now) giftNode
          (stampRecord shopTwo.info (shopRecord 4)).owner = true := by
  obtain ⟨s', h⟩ := shop_history (clientEnv Pallets.reference shopBlocks) rfl trivial
  exact served_owner_can_write Pallets.reference Pallets.reference.registryVerify.verifiesOwner
    Pallets.reference.expiresUseable.useableBeforeExpiry RecordTypes.reference shopBlocks shopServer s' shopSession h
    resolveCall resolveCall_in giftNode recordNode_resolve _ resolveCall_result

/-! ### Lookups -/

theorem replyAt_of_lookupOf {P : Pallets RT Label E} {T : RecordTypes Hickory RT} {S : BlockStore RT} {head : Head S}
    {c : PnsCall} {node : DomainHash} {codes : List UInt32} (h : c.lookupOf P = some (node, codes)) :
    replyAt P T head c = .records
      ((Runtime.lookup P head.best.state node (codes.map T.ofRequest)).map fun p => (T.toReply p.1, p.2)) := by
  cases c with
  | lookup n recordTypes =>
    obtain ⟨rfl, rfl⟩ := Prod.mk.inj (Option.some_inj.mp h)
    rfl
  | lookupByName name recordTypes =>
    obtain ⟨rfl, rfl⟩ := Prod.mk.inj (Option.some_inj.mp h)
    rfl
  | _ => cases h

theorem mem_lookup_reply {P : Pallets RT Label E} (hP : ResolversLookup P) {T : RecordTypes Hickory RT}
    (hT : T.RoundTrip) {st : Storage RT} {node : DomainHash} {codes : List UInt32}
    (hcodes : ∀ code ∈ codes, code.toNat < 2 ^ 16) {code : UInt32} {data : Bytes} :
    (code, data) ∈ (Runtime.lookup P st node (codes.map T.ofRequest)).map (fun p => (T.toReply p.1, p.2)) ↔
      code ∈ codes ∧ st.records node (T.ofRequest code) = some data := by
  constructor
  · intro h
    obtain ⟨⟨t, d⟩, hmem, heq⟩ := List.mem_map.mp h
    obtain ⟨rfl, rfl⟩ := Prod.mk.inj heq
    obtain ⟨htype, hrow⟩ := (hP st node _ t d).mp hmem
    obtain ⟨code, hcode, rfl⟩ := List.mem_map.mp htype
    have hback : T.toReply (T.ofRequest code) = code := hT.toReply_of_lt (hcodes code hcode)
    rw [hback]
    exact ⟨hcode, hrow⟩
  · rintro ⟨hcode, hrow⟩
    refine List.mem_map.mpr ⟨(T.ofRequest code, data), ?_, ?_⟩
    · exact (hP st node _ _ _).mpr ⟨List.mem_map_of_mem hcode, hrow⟩
    · rw [hT.toReply_of_lt (hcodes code hcode)]

/-- **A reply to a lookup is the stored rows of one best block**: of the requested codes, exactly those that
have a row, each with its data. -/
theorem lookup_replies_are_rows (P : Pallets RT Label E) (hP : ResolversLookup P) (T : RecordTypes Hickory RT)
    (hT : T.RoundTrip) (S : BlockStore RT) (s s' : Server ι S) (evs : List (ServerEvent ι S))
    (h : History (clientEnv P S) (serve T) s evs s') (A : ServerCall ι S) (hA : A.In evs) (node : DomainHash)
    (codes : List UInt32) (hlookup : A.request.lookupOf P = some (node, codes))
    (hcodes : ∀ code ∈ codes, code.toNat < 2 ^ 16) (pairs : List (UInt32 × Bytes))
    (hres : A.result = .ok (.records pairs)) :
    ∃ x ∈ A.exchanges, ∀ code data,
      (code, data) ∈ pairs ↔ code ∈ codes ∧ x.world.best.state.records node (T.ofRequest code) = some data := by
  obtain ⟨x, hx, hreply⟩ := reply_from_head h hA hres
  rw [replyAt_of_lookupOf hlookup, Reply.records.injEq] at hreply
  refine ⟨x, hx, fun code data => ?_⟩
  rw [← hreply]
  exact mem_lookup_reply hP hT hcodes

theorem lookup_replies_are_rows_shop :
    ∃ pairs, lookupCall.result = .ok (.records pairs) ∧ ∃ x ∈ lookupCall.exchanges, ∀ code data,
      (code, data) ∈ pairs ↔ code ∈ [(1 : UInt32), 28] ∧
        x.world.best.state.records giftNode (RecordTypes.reference.ofRequest code) = some data := by
  obtain ⟨s', h⟩ := shop_history (clientEnv Pallets.reference shopBlocks) rfl trivial
  have hres : lookupCall.result = .ok (.records _) :=
    congrArg Except.ok (replyAt_of_lookupOf (T := RecordTypes.reference) lookupOf_lookupCall)
  exact ⟨_, hres, lookup_replies_are_rows Pallets.reference Pallets.reference.resolversLookup RecordTypes.reference
    RecordTypes.reference_roundTrip shopBlocks shopServer s' shopSession h lookupCall lookupCall_in giftNode [1, 28]
    lookupOf_lookupCall addressCodes_narrow _ hres⟩

/-! ### A quiet name -/

/-- The client, while the title of the node stands and time passes: no head has another title of the node or an
earlier time than a head before it. -/
def quietEnv (P : Pallets RT Label E) (S : BlockStore RT) (node : DomainHash) :
    Env (Head S) (Request RT) Request.Response where
  move head head' := SameTitle head.best.state head'.best.state node ∧ head.best.state.now ≤ head'.best.state.now
  answer := (clientEnv P S).answer

theorem sameTitle_of_moves {P : Pallets RT Label E} {S : BlockStore RT} {node : DomainHash} {head head' : Head S}
    (h : Relation.ReflTransGen (quietEnv P S node).move head head') :
    SameTitle head.best.state head'.best.state node ∧ head.best.state.now ≤ head'.best.state.now := by
  induction h with
  | refl => exact ⟨.refl, UInt64.le_refl _⟩
  | tail _ hmove ih => exact ⟨ih.1.trans hmove.1, UInt64.le_trans ih.2 hmove.2⟩

/-- **Reads of a quiet name have no gap.**  While the title of a name stands, two calls that get its record get the
same title, and a call between them gets it too, unless it is refused or its runtime call fails. -/
theorem quiet_reads_have_no_gap (P : Pallets RT Label E) (T : RecordTypes Hickory RT) (S : BlockStore RT)
    (node : DomainHash) (s s' : Server ι S) (evs : List (ServerEvent ι S))
    (h : History (quietEnv P S node) (serve T) s evs s') (A C : ServerCall ι S) (hA : A.In evs) (hC : C.In evs)
    (hAC : A.Precedes C) (hnodeA : A.request.recordNode P = some node) (hnodeC : C.request.recordNode P = some node)
    (r r' : NameRecord) (hr : A.result = .ok (.record (some r))) (hr' : C.result = .ok (.record (some r'))) :
    r'.title = r.title ∧
      ∀ B : ServerCall ι S, B.In evs → A.Precedes B → B.Precedes C → B.request.recordNode P = some node →
        B.request.WithinLimits → (∀ x ∈ B.exchanges, ¬ Failed x) →
        ∃ q, B.result = .ok (.record (some q)) ∧ q.title = r.title := by
  have hclient : History (clientEnv P S) (serve T) s evs s' :=
    h.mono (E := quietEnv P S node) (fun _ _ _ => trivial) fun _ _ _ hr => hr
  obtain ⟨x, hxA, hx⟩ := reply_from_head hclient hA hr
  obtain ⟨z, hzC, hz⟩ := reply_from_head hclient hC hr'
  obtain ⟨r₀, hr₀, rfl⟩ := replyAt_eq_record hnodeA hx
  obtain ⟨r₁, hr₁, rfl⟩ := replyAt_eq_record hnodeC hz
  constructor
  · -- the two records, whatever is between them
    obtain ⟨hxz, hnowxz⟩ := sameTitle_of_moves (h.ordered hC hAC hxA hzC)
    obtain ⟨-, -, -, htitle⟩ := SameTitle.refl.no_gap hxz (UInt64.le_refl _) hnowxz hr₀ hr₁
    exact htitle
  · intro B hB hAB hBC hnodeB hlimits hfailed
    -- a call that is neither refused nor fails replies from a head between those of the others
    obtain ⟨reply, ho⟩ := replies_of_not_failed hclient hB hlimits hfailed
    obtain ⟨y, hyB, hy⟩ := reply_from_head hclient hB ho
    obtain ⟨hxy, hnowxy⟩ := sameTitle_of_moves (h.ordered hB hAB hxA hyB)
    obtain ⟨hyz, hnowyz⟩ := sameTitle_of_moves (h.ordered hC hBC hyB hzC)
    obtain ⟨q, hq, htitle, -⟩ := hxy.no_gap hyz hnowxy hnowyz hr₀ hr₁
    rw [replyAt_of_recordNode hnodeB, hq, Option.map_some] at hy
    exact ⟨stampRecord y.world.info q, by rw [ho, ← hy], htitle⟩

theorem quiet_reads_have_no_gap_shop :
    (stampRecord shopTwo.info (shopRecord 4)).title = (stampRecord shopOne.info (shopRecord 3)).title ∧
      ∃ q, resolveCall.result = .ok (.record (some q)) ∧
        q.title = (stampRecord shopOne.info (shopRecord 3)).title := by
  obtain ⟨s', h⟩ := shop_history (quietEnv Pallets.reference shopBlocks giftNode) rfl
    ⟨⟨rfl, rfl, rfl⟩, by decide⟩
  have hfirst : firstCall.Precedes resolveCall := List.prefix_append _ _
  have hlast : resolveCall.Precedes lastCall := ⟨_, rfl⟩
  obtain ⟨htitle, hbetween⟩ := quiet_reads_have_no_gap Pallets.reference RecordTypes.reference shopBlocks giftNode
    shopServer s' shopSession h firstCall lastCall firstCall_in lastCall_in (hfirst.trans hlast) rfl rfl _ _
    firstCall_result lastCall_result
  have hlimits : resolveCall.request.WithinLimits := show "gift".utf8ByteSize ≤ 128 by decide
  exact ⟨htitle, hbetween resolveCall resolveCall_in hfirst hlast recordNode_resolve hlimits
    (callAlone_not_failed shopTwo (.resolveName "gift") _ _)⟩

end Sessions

end PaseoNode.Node
