import StructEdit.Proofs.Wire.Records
import StructEdit.Wire.Script

/-!
# StructEdit.Proofs.Wire.Actions

Actions and scripts on the wire. The members of a payload are held until its kind is known;
none of them is too deep or stands for null when it is held (`SettledWire`), so that the
payload is made of what was written. Main statement: `Wire.lossless`, that actions,
scripts, contexts and requests read back from their values and from their texts.
-/

namespace StructEdit

open Wire

/-! ## Requests and records -/

instance : LawfulWire LiteralSpec where
  decode?_encode l := by
    unfold instWireLiteralSpec
    refine bind_fields? (by simp) ?_
    refine bind_required? l.type (by simp) ?_
    refine bind_optional? l.initialValue (by simp [List.lookup_cons]) ?_
    rfl

instance : PlainWire LiteralSpec where
  isPlain_encode l := by
    unfold instWireLiteralSpec
    simp [Json.isPlain, Json.arePlainMembers]

instance : NonNullWire LiteralSpec where
  encode_ne_null _ := Json.noConfusion

instance : LawfulWire Request where
  decode?_encode r := by
    unfold instWireRequest
    rcases r with ⟨kind, construct, literal, operator⟩
    cases literal <;> cases operator <;>
      simp [fields?_object, required?, optional?, List.lookup_cons, member]

instance : PlainWire Request where
  isPlain_encode r := by
    unfold instWireRequest
    rcases r with ⟨kind, construct, literal, operator⟩
    cases literal <;> cases operator <;> simp [Json.isPlain, Json.arePlainMembers, member]

instance : LawfulWire Insertion where
  decode?_encode r := by
    unfold instWireInsertion
    refine bind_fields? (by simp) ?_
    refine bind_required? r.construct (by simp) ?_
    refine bind_required? r.matchText (by simp [List.lookup_cons]) ?_
    refine bind_required? r.request (by simp [List.lookup_cons]) ?_
    refine bind_required? r.status (by simp [List.lookup_cons]) ?_
    rfl

instance : PlainWire Insertion where
  isPlain_encode r := by
    unfold instWireInsertion
    simp [Json.isPlain, Json.arePlainMembers]

/-! ## Held values -/

namespace Json

mutual

/-- Plain values are sound. -/
theorem isSound_of_isPlain (j : Json) (h : j.isPlain = true) : j.isSound = true := by
  match j with
  | null | bool _ | string _ => rfl
  | natural n =>
    rw [isPlain] at h
    simp [isSound, h]
  | array items => exact areSound_of_arePlain items h
  | object members => exact areSoundMembers_of_arePlainMembers members h

/-- Plain items are sound. -/
theorem areSound_of_arePlain (js : List Json) (h : arePlain js = true) : areSound js = true := by
  match js with
  | [] => rfl
  | j :: js =>
    rw [arePlain, Bool.and_eq_true] at h
    rw [areSound, isSound_of_isPlain j h.1, areSound_of_arePlain js h.2]
    rfl

/-- Plain members are sound. -/
theorem areSoundMembers_of_arePlainMembers (ms : List (String × Json))
    (h : arePlainMembers ms = true) : areSoundMembers ms = true := by
  match ms with
  | [] => rfl
  | (_, j) :: ms =>
    rw [arePlainMembers, Bool.and_eq_true] at h
    rw [areSoundMembers, isSound_of_isPlain j h.1, areSoundMembers_of_arePlainMembers ms h.2]
    rfl

end

end Json

/-- Types whose elements are written no deeper than a given depth, and as values that
stand for what they are when they are held. -/
class SettledWire (α : Type) (depth : outParam Nat) [Wire α] : Prop where
  depth_encode_le : ∀ a : α, (encode a).depth ≤ depth
  settled_encode : ∀ a : α, (encode a).settled = encode a

attribute [simp] SettledWire.settled_encode

namespace Wire

@[simp]
theorem depth_encode [Wire α] [SettledWire α 0] (a : α) : (encode a).depth = 0 :=
  Nat.le_zero.1 (SettledWire.depth_encode_le a)

instance : SettledWire Bool 0 where
  depth_encode_le _ := Nat.le_refl 0
  settled_encode _ := rfl

instance : SettledWire String 0 where
  depth_encode_le _ := Nat.le_refl 0
  settled_encode _ := rfl

instance : SettledWire Char 0 where
  depth_encode_le _ := Nat.le_refl 0
  settled_encode _ := rfl

instance : SettledWire UInt64 0 where
  depth_encode_le _ := Nat.le_refl 0
  settled_encode _ := rfl

instance (priority := low) [Named α] : SettledWire α 0 where
  depth_encode_le _ := Nat.le_refl 0
  settled_encode _ := rfl

instance [Wire α] [SettledWire α depth] : SettledWire (Option α) depth where
  depth_encode_le
    | none => Nat.zero_le depth
    | some a => SettledWire.depth_encode_le a
  settled_encode
    | none => rfl
    | some a => SettledWire.settled_encode a

instance [Wire α] [SettledWire α depth] : SettledWire (List α) (depth + 1) where
  depth_encode_le xs := by
    have hitems : Json.depthOfItems (xs.map encode) ≤ depth := by
      induction xs with
      | nil => exact Nat.zero_le depth
      | cons x xs ih => exact Nat.max_le.2 ⟨SettledWire.depth_encode_le x, ih⟩
    exact Nat.succ_le_succ hitems
  settled_encode xs := by
    have hitems : Json.settledItems (xs.map encode) = xs.map encode := by
      induction xs with
      | nil => rfl
      | cons x xs ih => simp [Json.settledItems, ih]
    exact congrArg Json.array hitems

end Wire

instance : SettledWire NodeId 0 where
  depth_encode_le _ := Nat.le_refl 0
  settled_encode _ := rfl

instance : SettledWire LiteralSpec 1 where
  depth_encode_le l := by
    unfold instWireLiteralSpec
    simp [Json.depth, Json.depthOfMembers]
  settled_encode l := by
    unfold instWireLiteralSpec
    simp [Json.settled, Json.settledMembers, Json.nullForEmpty]

instance : SettledWire Request 2 where
  depth_encode_le r := by
    unfold instWireRequest
    rcases r with ⟨kind, construct, literal, operator⟩
    cases literal <;> cases operator <;>
      simp [Json.depth, Json.depthOfMembers, member, SettledWire.depth_encode_le]
  settled_encode r := by
    unfold instWireRequest
    rcases r with ⟨kind, construct, literal, operator⟩
    cases literal <;> cases operator <;>
      simp [Json.settled, Json.settledMembers, Json.nullForEmpty, member]

instance : SettledWire Insertion 3 where
  depth_encode_le r := by
    have hrequest : (encode r.request).depth ≤ 2 := SettledWire.depth_encode_le r.request
    unfold instWireInsertion
    refine Nat.succ_le_succ ?_
    simp [Json.depthOfMembers, hrequest]
  settled_encode r := by
    unfold instWireInsertion
    simp [Json.settled, Json.settledMembers, Json.nullForEmpty]

/-- A plain value that is not too deep can be held. -/
theorem Wire.isHoldable_encode [Wire α] [PlainWire α] [SettledWire α depth] {outer : Nat}
    (houter : outer ≤ 2) (hdepth : depth ≤ 4) (a : α) : (encode a).isHoldable outer = true := by
  have hsound := Json.isSound_of_isPlain (encode a) (PlainWire.isPlain_encode a)
  have hle : outer + (encode a).depth ≤ Json.depthLimit := by
    have := SettledWire.depth_encode_le a
    rw [Json.depthLimit]
    omega
  simp [Json.isHoldable, hsound, hle]

/-- All members of a payload can be held, and stand for what they are. -/
theorem Payload.isHoldable_members (p : Payload) {outer : Nat} (h : outer ≤ 2) :
    ∀ m ∈ p.members, m.2.isHoldable outer = true ∧ m.2.settled = m.2 := by
  cases p <;> simp [Payload.members, isHoldable_encode, h]

/-- The member of a payload that has just one is found by its name. -/
theorem Wire.bind_member [Wire α] [LawfulWire α] {β : Type} {name : String} {kind : Json}
    {k : α → Option β} (a : α) (hname : "kind" ≠ name) :
    (fields? [name] (.object [("kind", kind), (name, encode a)])).bind
      (fun f => (required? f name).bind k) = k a := by
  refine bind_fields? (by simpa using hname) ?_
  refine bind_required? a ?_ rfl
  simp [List.lookup_cons, (beq_eq_false_iff_ne).2 hname.symm]

/-- The members of a payload that has two are found by their names. -/
theorem Wire.bind_members [Wire α] [LawfulWire α] [Wire β] [LawfulWire β] {γ : Type}
    {name other : String} {kind : Json} {k : α → β → Option γ} (a : α) (b : β)
    (hnames : ["kind", name, other].Nodup) :
    (fields? [name, other] (.object [("kind", kind), (name, encode a), (other, encode b)])).bind
      (fun f => (required? f name).bind fun x => (required? f other).bind (k x)) = k a b := by
  simp only [List.nodup_cons, List.mem_cons, List.not_mem_nil, or_false, not_or] at hnames
  obtain ⟨⟨hname, hother⟩, hne, _⟩ := hnames
  refine bind_fields? (by simp [hname, hother, hne]) ?_
  refine bind_required? a (by simp [List.lookup_cons, beq_eq_false_iff_ne.2 (Ne.symm hname)]) ?_
  refine bind_required? b ?_ rfl
  simp [List.lookup_cons, beq_eq_false_iff_ne.2 (Ne.symm hother),
    beq_eq_false_iff_ne.2 (Ne.symm hne)]

/-- A payload is made of its members again. -/
theorem Payload.ofMembers?_members (p : Payload) :
    Payload.ofMembers? p.kind (("kind", encode p.kind) :: p.members) = some p := by
  cases p <;> simp only [Payload.kind, Payload.ofMembers?, Payload.memberNames, Payload.members]
  case listItem side => exact bind_member side (by decide)
  case curLine pressedBackspace => exact bind_member pressedBackspace (by decide)
  case emptyLines forward => exact bind_member forward (by decide)
  case literal type initialValue =>
    refine bind_fields? (by simp) ?_
    refine bind_required? type (by simp [List.lookup_cons]) ?_
    refine bind_optional? initialValue (by simp [List.lookup_cons]) ?_
    rfl
  case statement construct => exact bind_member construct (by decide)
  case expression construct => exact bind_member construct (by decide)
  case modifier construct => exact bind_member construct (by decide)
  case binaryOperator operator placement => exact bind_members operator placement (by decide)
  case unaryOperator operator placement => exact bind_members operator placement (by decide)
  case operatorToken operator => exact bind_member operator (by decide)
  case elseStatement hasCondition outside => exact bind_members hasCondition outside (by decide)
  case emptyListItem side => exact bind_member side (by decide)
  case autocomplete kind first pattern records =>
    refine bind_fields? (by simp) ?_
    refine bind_required? kind (by simp [List.lookup_cons]) ?_
    refine bind_required? first (by simp [List.lookup_cons]) ?_
    refine bind_required? pattern (by simp [List.lookup_cons]) ?_
    refine bind_required? records (by simp [List.lookup_cons]) ?_
    rfl
  case node id => exact bind_member id (by decide)

/-- The kind of a payload can be held. -/
theorem Payload.isHoldable_kind (p : Payload) {outer : Nat} (h : outer ≤ 2) :
    (encode p.kind).isHoldable outer = true := by
  simp [isHoldable_encode, h]

/-- A payload reads back from its value, also inside an action. -/
theorem Payload.decodeWithin?_encode (p : Payload) {outer : Nat} (h : outer ≤ 1) :
    Payload.decodeWithin? outer (encode p) = some p := by
  have hmembers := p.isHoldable_members (Nat.succ_le_succ h)
  have hkind := p.isHoldable_kind (Nat.succ_le_succ h)
  have hnames : ("kind" :: p.members.map (·.1)).Nodup := by cases p <;> simp [members]
  have hall : (p.members.all fun m => m.2.isHoldable (outer + 1)) = true :=
    List.all_eq_true.2 fun m hm => (hmembers m hm).1
  have hheld : p.members.map (fun m => (m.1, m.2.settled)) = p.members := by
    have hid : ∀ m ∈ p.members, (m.1, m.2.settled) = id m := by
      intro m hm
      rw [(hmembers m hm).2, id]
    rw [List.map_congr_left hid, List.map_id]
  unfold instWirePayload
  simp [decodeWithin?, fields?_object, required?, hnames, hkind, hall, hheld, ofMembers?_members]

/-- The members of a payload have the names that its kind says. -/
theorem Payload.memberNames_kind (p : Payload) :
    Payload.memberNames p.kind = p.members.map (·.1) := by
  cases p <;> rfl

/-- A payload reads back from an array of its kind and its members, too. -/
theorem Payload.decodeWithin?_array (p : Payload) {outer : Nat} (h : outer ≤ 1) :
    Payload.decodeWithin? outer (.array (encode p.kind :: p.members.map (·.2))) = some p := by
  have hmembers := p.isHoldable_members (Nat.succ_le_succ h)
  have hall : ((p.members.map (·.2)).all (·.isHoldable (outer + 1))) = true := by
    rw [List.all_map, List.all_eq_true]
    exact fun m hm => (hmembers m hm).1
  have hsettled : (p.members.map (·.2)).map (·.settled) = p.members.map (·.2) := by
    rw [List.map_map]
    exact List.map_congr_left fun m hm => (hmembers m hm).2
  have hzip : (p.members.map (·.1)).zip (p.members.map (·.2)) = p.members := by
    rw [List.zip_map', List.map_id'']
    exact fun _ => rfl
  simp [decodeWithin?, memberNames_kind, hall, hsettled, hzip, ofMembers?_members]

instance : LawfulWire Payload where
  decode?_encode p := p.decodeWithin?_encode (Nat.zero_le 1)

instance : PlainWire Payload where
  isPlain_encode p := by
    unfold instWirePayload
    cases p <;> simp [Payload.members, Json.isPlain, Json.arePlainMembers]

/-! ## Actions -/

instance : LawfulWire Action where
  decode?_encode a := by
    unfold instWireAction
    rcases a with ⟨intent, payload, source⟩
    cases payload with
    | none => simp [fields?_object, required?, optional?, List.lookup_cons, member]
    | some p =>
      have h := p.decodeWithin?_encode (Nat.le_refl 1)
      simp [fields?_object, required?, optional?, List.lookup_cons, member, h]

instance : PlainWire Action where
  isPlain_encode a := by
    unfold instWireAction
    rcases a with ⟨intent, payload, source⟩
    cases payload <;> simp [Json.isPlain, Json.arePlainMembers, member]

/-- An action as a value that writes null where there is no payload. -/
def Action.encodeWithNulls (a : Action) : Json :=
  .object [("type", encode a.intent), ("data", encode a.payload), ("source", encode a.source)]

/-- A payload that is null is a missing one. -/
theorem Action.decode?_encodeWithNulls (a : Action) : decode? a.encodeWithNulls = some a := by
  unfold instWireAction
  rcases a with ⟨intent, payload, source⟩
  cases payload with
  | none =>
    have hnull : encode (none : Option Payload) = .null := rfl
    simp [encodeWithNulls, fields?_object, required?, optional?, List.lookup_cons, hnull]
  | some p =>
    have hsome : encode (some p) = encode p := rfl
    have h := p.decodeWithin?_encode (Nat.le_refl 1)
    simp [encodeWithNulls, fields?_object, required?, optional?, List.lookup_cons, hsome, h]

/-- A request as a value that writes null for each part that it has not got. -/
def Request.encodeWithNulls (r : Request) : Json :=
  .object [("kind", encode r.kind), ("construct", encode r.construct),
    ("literal", encode r.literal), ("operator", encode r.operator)]

/-- Parts of a request that are null are missing ones. -/
theorem Request.decode?_encodeWithNulls (r : Request) : decode? r.encodeWithNulls = some r := by
  unfold instWireRequest
  refine bind_fields? (by simp) ?_
  refine bind_required? r.kind (by simp) ?_
  refine bind_required? r.construct (by simp [List.lookup_cons]) ?_
  refine bind_optional? r.literal (by simp [List.lookup_cons]) ?_
  refine bind_optional? r.operator (by simp [List.lookup_cons]) ?_
  rfl

/-! ## Scripts -/

/-- The predicates that hold are listed, and read back as the same set. -/
instance : LawfulWire Script where
  decode?_encode s := by
    unfold instWireScript
    refine bind_fields? (by simp) ?_
    refine bind_optional? s.context (by simp) ?_
    refine bind_optional? s.predicates (by simp [List.lookup_cons]) ?_
    refine bind_optional? s.draftNode (by simp [List.lookup_cons]) ?_
    refine bind_optional? s.insertions (by simp [List.lookup_cons]) ?_
    refine bind_optional? s.constructs (by simp [List.lookup_cons]) ?_
    rw [Script.holding_predicates]

instance : PlainWire Script where
  isPlain_encode s := by
    unfold instWireScript
    simp [Json.isPlain, Json.arePlainMembers]

/-! ## Nothing is lost -/

/-- Actions, scripts, contexts and requests read back from the values that they are written
as, and from the texts of these values. What is left out when it is missing, the payload of
an action and two parts of a request, may be written as null as well. -/
theorem Wire.lossless :
    (∀ a : Action, decode? (encode a) = some a ∧ ofText? (toText a) = some a ∧
      decode? a.encodeWithNulls = some a) ∧
    (∀ s : Script, decode? (encode s) = some s ∧ ofText? (toText s) = some s) ∧
    (∀ c : Context, decode? (encode c) = some c ∧ ofText? (toText c) = some c) ∧
    (∀ r : Request, decode? (encode r) = some r ∧ ofText? (toText r) = some r ∧
      decode? r.encodeWithNulls = some r) := by
  constructor
  · intro a
    exact ⟨LawfulWire.decode?_encode a, ofText?_toText a, a.decode?_encodeWithNulls⟩
  constructor
  · intro s
    exact ⟨LawfulWire.decode?_encode s, ofText?_toText s⟩
  constructor
  · intro c
    exact ⟨LawfulWire.decode?_encode c, ofText?_toText c⟩
  · intro r
    exact ⟨LawfulWire.decode?_encode r, ofText?_toText r, r.decode?_encodeWithNulls⟩

end StructEdit
