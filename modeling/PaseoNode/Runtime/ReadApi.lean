import PaseoNode.Runtime.Apis

/-!
# The read endpoints against each other

* `byName_agrees_byNode` — a name and its node get the same answers;
* `hidden_serves_no_records_iff` — when the record lookups keep quiet about a hidden name: only when the name has no
  row to serve.  `lookup` and `lookup_by_name` lack the check of `get_info` and `resolve_name`;
* `advertised_iff_sellable` — when a name is advertised for sale only while it can be sold: only when its listing row,
  if there is one, is unexpired and the name visible.  `for_sale` and `get_listing` look at the presence of the row.
-/

namespace PaseoNode.Runtime

open PaseoNode.Lib

variable {RT Label E : Type}

/-! ### Names and nodes -/

theorem byName_agrees_byNode (P : Pallets RT Label E) (hP : ParsersAgree P) (st : Storage RT) (name : Bytes)
    (label : Label) (len : ℕ) (hlabel : P.newWithLen name = some (label, len)) :
    let n := P.encodeWithNode label P.nativeBasenode
    resolveName P st name = getInfo st n ∧
      ((getListing P st name).isSome = true ↔ (st.listings n).isSome = true) ∧
      (∀ r, resolveName P st name = some r → (r.forSale = true ↔ (getListing P st name).isSome = true)) ∧
      ∀ types, lookupByName P st name types = lookup P st n types := by
  intro n
  have hnode : labelNode P name = some n := by simp [labelNode, hlabel, n]
  have hlisting : (getListing P st name).isSome = (st.listings n).isSome := getListing_isSome_of_label hnode
  refine ⟨resolveName_of_label hnode, by rw [hlisting], ?_, ?_⟩
  · intro r hr
    rw [resolveName_of_label hnode, getInfo_eq_some_iff] at hr
    obtain ⟨-, info, token, -, -, -, rfl⟩ := hr
    rw [hlisting, nameRecord]
  · exact lookupByName_of_parse (hP.parse_of_label hnode)

def giftName : Bytes := [103, 105, 102, 116]

/-- The node of `b"gift"` under the stand-in hash. -/
def giftNode : DomainHash := hashLabel giftName 1

theorem labelNode_gift : labelNode Pallets.reference giftName = some giftNode := by decide +kernel

theorem parse_gift : Pallets.reference.parseNameToNode giftName Pallets.reference.nativeBasenode = some giftNode :=
  Pallets.reference.parsersAgree.parse_of_label labelNode_gift

def registration (expire : Moment) : RegistrarInfo where
  expire := expire
  capacity := 10
  registerFee := 0
  lastBlock := 1

/-- `b"gift"`, registered until `expire`, at time `now`. -/
def giftStorage (expire now : Moment) : Storage UInt16 :=
  .single now giftNode { info := some (registration expire), token := some ⟨7⟩ }

def giftRecord : NameRecord := nameRecord (giftStorage 10 3) giftNode (registration 10) ⟨7⟩

theorem getInfo_gift : getInfo (giftStorage 10 3) giftNode = some giftRecord := by
  rw [getInfo_eq_some_iff]
  refine ⟨not_offerLive_of_no_row ?_, registration 10, ⟨7⟩, ?_, by decide, ?_, rfl⟩ <;> simp [giftStorage]

theorem byName_agrees_byNode_gift :
    resolveName Pallets.reference (giftStorage 10 3) giftName = getInfo (giftStorage 10 3) giftNode ∧
      ((getListing Pallets.reference (giftStorage 10 3) giftName).isSome = true ↔
        ((giftStorage 10 3).listings giftNode).isSome = true) ∧
      (∀ r, resolveName Pallets.reference (giftStorage 10 3) giftName = some r →
        (r.forSale = true ↔ (getListing Pallets.reference (giftStorage 10 3) giftName).isSome = true)) ∧
      ∀ types, lookupByName Pallets.reference (giftStorage 10 3) giftName types =
        lookup Pallets.reference (giftStorage 10 3) giftNode types :=
  byName_agrees_byNode Pallets.reference Pallets.reference.parsersAgree (giftStorage 10 3) giftName giftName 4
    (by decide +kernel)

/-! ### Records of hidden names -/

/-- **When hidden names serve no records.**  The lookups of a hidden node are empty exactly when the node has no row of
a requested type: nothing in them depends on the node being hidden. -/
theorem hidden_serves_no_records_iff (P : Pallets RT Label E) (hP : ResolversLookup P) (st : Storage RT)
    (node : DomainHash) (types : List RT) :
    (Hidden st node → lookup P st node types = [] ∧
      ∀ name, P.parseNameToNode name P.nativeBasenode = some node → lookupByName P st name types = []) ↔
    ¬ Hidden st node ∨ ∀ t ∈ types, st.records node t = none := by
  rw [← imp_iff_not_or]
  refine imp_congr_right fun _ => ?_
  rw [← lookup_eq_nil_iff hP]
  constructor
  · exact And.left
  · intro h
    refine ⟨h, fun name hname => ?_⟩
    rw [lookupByName_of_parse hname, h]

/-- `b"gift"` with an address record, sold as a gift at time 2 and not yet accepted. -/
def soldStorage : Storage UInt16 :=
  .single 3 giftNode
    { offer := some ⟨2⟩, info := some (registration 10), token := some ⟨7⟩, records := fun _ => some [192, 0, 2, 1] }

/-- `b"gift"` with an address record, expired and not yet cleaned up. -/
def expiredStorage : Storage UInt16 :=
  .single 10 giftNode
    { info := some (registration 10), token := some ⟨7⟩, records := fun _ => some [192, 0, 2, 1] }

theorem hidden_sold : Hidden soldStorage giftNode :=
  ⟨registration 10, by simp [soldStorage], Or.inr
    ⟨⟨2⟩, by simp [soldStorage], by decide⟩⟩

theorem hidden_expired : Hidden expiredStorage giftNode :=
  ⟨registration 10, by simp [expiredStorage], Or.inl (by decide)⟩

/-- The node of an expired name without records is hidden and serves none; the condition fails for the sold name. -/
theorem hidden_serves_no_records_iff_gift :
    (Hidden (giftStorage 10 10) giftNode ∧ lookup Pallets.reference (giftStorage 10 10) giftNode [1] = [] ∧
      lookupByName Pallets.reference (giftStorage 10 10) giftName [1] = []) ∧
    ((Hidden soldStorage giftNode → lookup Pallets.reference soldStorage giftNode [1] = [] ∧
      ∀ name, Pallets.reference.parseNameToNode name Pallets.reference.nativeBasenode = some giftNode →
        lookupByName Pallets.reference soldStorage name [1] = []) ↔
    ¬ Hidden soldStorage giftNode ∨ ∀ t ∈ [(1 : UInt16)], soldStorage.records giftNode t = none) := by
  have hhidden : Hidden (giftStorage 10 10) giftNode :=
    ⟨registration 10, by simp [giftStorage], Or.inl (by decide)⟩
  have hempty : ∀ t ∈ [(1 : UInt16)], (giftStorage 10 10).records giftNode t = none := by
    intro t _
    simp [giftStorage]
  obtain ⟨hlookup, hname⟩ := (hidden_serves_no_records_iff Pallets.reference Pallets.reference.resolversLookup
    (giftStorage 10 10) giftNode [1]).mpr (Or.inr hempty) hhidden
  exact ⟨⟨hhidden, hlookup, hname giftName parse_gift⟩,
    hidden_serves_no_records_iff Pallets.reference Pallets.reference.resolversLookup soldStorage giftNode [1]⟩

/-- A sold and an expired name, both hidden by `get_info`, serve their address record to both lookups. -/
theorem hidden_names_serve_records :
    (Hidden soldStorage giftNode ∧ getInfo soldStorage giftNode = none ∧
      lookup Pallets.reference soldStorage giftNode [1] = [(1, [192, 0, 2, 1])] ∧
      lookupByName Pallets.reference soldStorage giftName [1] = [(1, [192, 0, 2, 1])]) ∧
    Hidden expiredStorage giftNode ∧ getInfo expiredStorage giftNode = none ∧
      lookup Pallets.reference expiredStorage giftNode [1] = [(1, [192, 0, 2, 1])] ∧
      lookupByName Pallets.reference expiredStorage giftName [1] = [(1, [192, 0, 2, 1])] := by
  refine ⟨⟨hidden_sold, getInfo_eq_none_of_hidden hidden_sold, ?_, ?_⟩,
    hidden_expired, getInfo_eq_none_of_hidden hidden_expired, ?_, ?_⟩
  · simp [lookup, Pallets.reference, soldStorage]
  · rw [lookupByName_of_parse parse_gift]
    simp [lookup, Pallets.reference, soldStorage]
  · simp [lookup, Pallets.reference, expiredStorage]
  · rw [lookupByName_of_parse parse_gift]
    simp [lookup, Pallets.reference, expiredStorage]

/-! ### Names for sale -/

/-- **When a name is advertised only while it can be sold.**  The flag and the listing of a name are right exactly when
the listing row of its node, if there is one, is unexpired and stands on a visible node. -/
theorem advertised_iff_sellable (P : Pallets RT Label E) (st : Storage RT) (name : Bytes) :
    ((∀ node, labelNode P name = some node → ∀ r, resolveName P st name = some r ∨ getInfo st node = some r →
        r.forSale = true → ∃ l, st.listings node = some l ∧ st.now < l.expiresAt) ∧
      ((getListing P st name).isSome = true → (resolveName P st name).isSome = true)) ↔
    ∀ node l, labelNode P name = some node → st.listings node = some l →
      Visible st node ∧ st.now < l.expiresAt := by
  constructor
  · rintro ⟨hsale, hshown⟩ node l hnode hl
    have hsome : (getInfo st node).isSome = true := by
      rw [← resolveName_of_label hnode]
      exact hshown (by rw [getListing_isSome_of_label hnode, hl]; rfl)
    obtain ⟨r, hr⟩ := Option.isSome_iff_exists.mp hsome
    -- a visible node with a listing row carries the flag, so the first half speaks of its row
    obtain ⟨-, info, token, -, -, -, hrec⟩ := getInfo_eq_some_iff.mp hr
    obtain ⟨l', hl', hlt⟩ := hsale node hnode r (Or.inr hr) (by rw [← hrec, nameRecord, hl]; rfl)
    obtain rfl : l = l' := Option.some_inj.mp (hl.symm.trans hl')
    exact ⟨getInfo_isSome_iff.mp hsome, hlt⟩
  · intro h
    constructor
    · intro node hnode r hr hforSale
      rw [resolveName_of_label hnode, or_self, getInfo_eq_some_iff] at hr
      obtain ⟨-, info, token, -, -, -, rfl⟩ := hr
      obtain ⟨l, hl⟩ := Option.isSome_iff_exists.mp hforSale
      exact ⟨l, hl, (h node l hnode hl).2⟩
    · intro hlisting
      cases hnode : labelNode P name with
      | none =>
        rw [getListing_of_no_label hnode] at hlisting
        cases hlisting
      | some node =>
        rw [getListing_isSome_of_label hnode] at hlisting
        obtain ⟨l, hl⟩ := Option.isSome_iff_exists.mp hlisting
        rw [resolveName_of_label hnode, getInfo_isSome_iff]
        exact (h node l hnode hl).1

def listedStorage (now expiresAt : Moment) : Storage UInt16 :=
  .single now giftNode
    { info := some (registration 10), token := some ⟨7⟩, listing := some ⟨7, 1000, expiresAt⟩ }

theorem getInfo_listed {now expiresAt : Moment} (h : now < 10) : getInfo (listedStorage now expiresAt) giftNode =
    some (nameRecord (listedStorage now expiresAt) giftNode (registration 10) ⟨7⟩) := by
  rw [getInfo_eq_some_iff]
  refine ⟨not_offerLive_of_no_row ?_, registration 10, ⟨7⟩, ?_, h, ?_, rfl⟩ <;> simp [listedStorage]

/-- A name whose listing has expired is still for sale; an expired name is still listed. -/
theorem stale_listing_advertised :
    (∃ r, resolveName Pallets.reference (listedStorage 5 4) giftName = some r ∧ r.forSale = true ∧
      ∀ l, (listedStorage 5 4).listings giftNode = some l → ¬ (listedStorage 5 4).now < l.expiresAt) ∧
    (getListing Pallets.reference (listedStorage 10 12) giftName).isSome = true ∧
      resolveName Pallets.reference (listedStorage 10 12) giftName = none := by
  have hrecord : resolveName Pallets.reference (listedStorage 5 4) giftName =
      some (nameRecord (listedStorage 5 4) giftNode (registration 10) ⟨7⟩) := by
    rw [resolveName_of_label labelNode_gift]
    exact getInfo_listed (by decide)
  have hlisting : (listedStorage 5 4).listings giftNode = some ⟨7, 1000, 4⟩ := by simp [listedStorage]
  have hhidden : Hidden (listedStorage 10 12) giftNode :=
    ⟨registration 10, by simp [listedStorage], Or.inl (by decide)⟩
  refine ⟨⟨_, hrecord, ?_, fun l hl => ?_⟩, ?_, ?_⟩
  · simp [nameRecord, hlisting]
  · obtain rfl : ⟨7, 1000, 4⟩ = l := Option.some_inj.mp (hlisting.symm.trans hl)
    decide
  · rw [getListing_isSome_of_label labelNode_gift]
    simp [listedStorage]
  · rw [resolveName_of_label labelNode_gift]
    exact getInfo_eq_none_of_hidden hhidden

end PaseoNode.Runtime
