import Rtc2Tcp.Go.JSON
import Rtc2Tcp.WebRTC.Hello

namespace Rtc2Tcp.WebRTC

open Octets Go Auth Goroutine JSON

inductive MessageField where
  | scheme
  | kind
  | initiatorRole
  | responderRole
  | share
  | confirmation
deriving DecidableEq, Repr

def messageFields : List MessageField := [.scheme, .kind, .initiatorRole, .responderRole, .share, .confirmation]

def MessageField.name : MessageField → Bytes
  | .scheme => text "scheme"
  | .kind => text "kind"
  | .initiatorRole => text "initiator_role"
  | .responderRole => text "responder_role"
  | .share => text "share"
  | .confirmation => text "confirmation"

def MessageField.omitEmpty : MessageField → Bool
  | .scheme | .kind => false
  | _ => true

def kindText : MessageKind → Bytes
  | .hello => text "hello"
  | .accept => text "accept"
  | .confirm => text "confirm"
  | .other kind => kind

def kindOf (kind : Bytes) : MessageKind :=
  if kind = text "hello" then .hello
  else if kind = text "accept" then .accept
  else if kind = text "confirm" then .confirm
  else .other kind

def getField (m : Message) : MessageField → Bytes
  | .scheme => m.scheme
  | .kind => kindText m.kind
  | .initiatorRole => m.initiatorRole
  | .responderRole => m.responderRole
  | .share => m.share
  | .confirmation => m.confirmation

def setField (m : Message) (s : Bytes) : MessageField → Message
  | .scheme => { m with scheme := s }
  | .kind => { m with kind := kindOf s }
  | .initiatorRole => { m with initiatorRole := s }
  | .responderRole => { m with responderRole := s }
  | .share => { m with share := s }
  | .confirmation => { m with confirmation := s }

/-- The field that `object` stores a member in: the one of exactly this name, else the one whose name folds alike. -/
def findField (name : Bytes) : Option MessageField :=
  match messageFields.find? fun f => f.name = name with
  | some f => some f
  | none => messageFields.find? fun f => foldName f.name = foldName name

/-- One member of an object. An unknown name and a value that is not a string are errors; `null` leaves
    the field as it is. -/
def storeMember (m : Message) (member : Bytes × Value) : Option Message := do
  let name ← unquote member.1
  let field ← findField name
  match member.2 with
  | .null => some m
  | .string literal => (unquote literal).map fun s => setField m s field
  | _ => none

/-- `Decode` into a new `Message`, with unknown fields disallowed. -/
def decodeMessage (data : Bytes) : Option Message :=
  match readValue data with
  | some (.null, _) => some .empty
  | some (.object members, _) => members.foldlM storeMember .empty
  | _ => none

def isWritten (m : Message) (f : MessageField) : Bool := !(f.omitEmpty && getField m f == [])

def marshalMembers (m : Message) : List MessageField → Bytes
  | [] => []
  | f :: rest => appendString f.name ++ 0x3a :: (appendString (getField m f) ++
      if rest = [] then [] else 0x2c :: marshalMembers m rest)

/-- `json.Marshal` of a `Message`, which is what `sendAuthMessage` sends. -/
def marshalMessage (m : Message) : Bytes :=
  0x7b :: (marshalMembers m (messageFields.filter (isWritten m)) ++ [0x7d])

/-- Whether a name counts as the name of a field only when it is spelled exactly so, or also when the decoder takes it
    for one. -/
inductive Naming where
  | exact
  | folded
deriving DecidableEq, Repr

def Known : Naming → Literal → Prop
  | .exact, key => ∃ f : MessageField, unquote key.val = some f.name
  | .folded, key => ∃ name f, unquote key.val = some name ∧ findField name = some f

/-- The whole frame is one object, up to white space, all of whose members are known fields with strings. -/
def WellFormed (naming : Naming) (data : Bytes) : Prop :=
  ∃ (before : Gap) (object : FlatObject) (after : Gap), data = before.val ++ (object.text ++ after.val) ∧
    ∀ m ∈ object.members, Known naming m.key ∧ m.value ≠ none

/-- The frame starts with `null`, or with an object the decoder takes although a value is `null`, a name is not spelled
    as the field's or something follows the object. -/
def Lenient (naming : Naming) (data : Bytes) : Prop :=
  (∃ (before : Gap) (after : Bytes), data = before.val ++ (text "null" ++ after)) ∨
  ∃ (before : Gap) (object : FlatObject) (after : Bytes), data = before.val ++ (object.text ++ after) ∧
    (∀ m ∈ object.members, Known .folded m.key) ∧
    ((∃ m ∈ object.members, m.value = none) ∨ (∃ m ∈ object.members, ¬Known naming m.key) ∨
      ∃ c ∈ after, JSON.isSpace c = false)

def Op.stepped : {β : Type} → Op β → Option Message
  | _, .authStep inbound => some inbound
  | _, _ => none

/-- Some run of the program passes the message to `Step`. -/
def Steps (m : Message) {α : Type} : Prog Op α → Prop
  | .done _ => False
  | .act op next => op.stepped = some m ∨ ∃ result, Steps m (next result)

/-- Every run of the program ends in an error, and none of its operations changes the session or its authenticator. -/
def Rejects : Prog Op (Option SessionError) → Prop
  | .done result => result ≠ none
  | .act op next =>
    (∀ (A : Authenticator) (c : Choice) (s t : Session A) result, Session.exec op c s = some (result, t) → t = s) ∧
      ∀ result, Rejects (next result)

/-- The frame reaches the authenticator only when it is well formed, and is rejected when it is not. -/
def StrictAt (naming : Naming) (data : Bytes) : Prop :=
  (∀ m, Steps m (handleControlMessage decodeMessage data) → WellFormed naming data) ∧
    (¬WellFormed naming data → Rejects (handleControlMessage decodeMessage data))

theorem findField_name (f : MessageField) : findField f.name = some f := by
  cases f <;> decide +kernel

theorem Known.folded {naming : Naming} {key : Literal} (known : Known naming key) : Known .folded key := by
  cases naming with
  | exact =>
    obtain ⟨f, named⟩ := known
    exact ⟨f.name, f, named, findField_name f⟩
  | folded => exact known

theorem storeMember_inv (m n : Message) (key : Bytes) (v : Value) (stored : storeMember m (key, v) = some n) :
    (∃ name f, unquote key = some name ∧ findField name = some f) ∧ v.Leaf := by
  obtain ⟨name, named, stored⟩ := Option.bind_eq_some_iff.mp stored
  obtain ⟨f, found, stored⟩ := Option.bind_eq_some_iff.mp stored
  refine ⟨⟨name, f, named, found⟩, ?_⟩
  cases v with
  | null => exact .inl rfl
  | string literal => exact .inr ⟨literal, rfl⟩
  | bool => cases stored
  | number => cases stored
  | array => cases stored
  | object => cases stored

theorem storeMembers_inv (entries : List (Bytes × Value)) (m n : Message)
    (stored : entries.foldlM storeMember m = some n) (e : Bytes × Value) (member : e ∈ entries) :
    (∃ name f, unquote e.1 = some name ∧ findField name = some f) ∧ e.2.Leaf := by
  induction entries generalizing m with
  | nil => cases member
  | cons first rest ih =>
    rw [List.foldlM_cons] at stored
    obtain ⟨next, here, stored⟩ := Option.bind_eq_some_iff.mp stored
    rcases List.mem_cons.mp member with rfl | later
    · exact storeMember_inv m next e.1 e.2 here
    · exact ih next stored later

theorem storeMember_known (m : Message) (key : Bytes) (v : Value) (name : Bytes) (f : MessageField)
    (named : unquote key = some name) (found : findField name = some f) :
    storeMember m (key, v) = match v with
      | .null => some m
      | .string literal => (unquote literal).map fun s => setField m s f
      | _ => none := by
  simp only [storeMember, named, found, Option.bind_eq_bind, Option.bind_some]

theorem storeMember_member (m : Message) (entry : Member) (known : Known .folded entry.key) :
    ∃ n, storeMember m entry.entry = some n := by
  obtain ⟨name, f, named, found⟩ := known
  rw [Member.entry, storeMember_known m _ _ name f named found]
  cases entry.value with
  | none => exact ⟨m, rfl⟩
  | some literal =>
    obtain ⟨s, unquoted⟩ := literal.property.unquote
    refine ⟨setField m s f, ?_⟩
    rw [scanned]
    dsimp only
    rw [unquoted]
    rfl

theorem storeMembers_members (members : List Member) (m : Message) (known : ∀ e ∈ members, Known .folded e.key) :
    ∃ n, (members.map Member.entry).foldlM storeMember m = some n := by
  induction members generalizing m with
  | nil => exact ⟨m, rfl⟩
  | cons first rest ih =>
    obtain ⟨next, here⟩ := storeMember_member m first (known first List.mem_cons_self)
    obtain ⟨n, stored⟩ := ih next fun e member => known e (List.mem_cons_of_mem _ member)
    refine ⟨n, ?_⟩
    rw [List.map_cons, List.foldlM_cons, here]
    exact stored

theorem decodeMessage_inv (data : Bytes) (m : Message) (decoded : decodeMessage data = some m) :
    (∃ (before : Gap) (after : Bytes), data = before.val ++ (text "null" ++ after)) ∨
    ∃ (before : Gap) (object : FlatObject) (after : Bytes), data = before.val ++ (object.text ++ after) ∧
      ∀ e ∈ object.members, Known .folded e.key := by
  rw [decodeMessage] at decoded
  split at decoded
  · rename_i after read
    obtain ⟨before, same⟩ := readValue_eq_null data after read
    exact .inl ⟨before, after, same⟩
  · rename_i entries after read
    have inverted := storeMembers_inv entries .empty m decoded
    obtain ⟨before, object, same, rfl⟩ := readValue_object data after entries read fun e member => (inverted e member).2
    refine .inr ⟨before, object, after, same, ?_⟩
    intro e member
    exact (inverted e.entry (List.mem_map_of_mem member)).1
  · cases decoded

theorem decodeMessage_flat (before : Gap) (object : FlatObject) (after : Bytes)
    (known : ∀ e ∈ object.members, Known .folded e.key) :
    ∃ m, decodeMessage (before.val ++ (object.text ++ after)) = some m := by
  rw [decodeMessage, readValue_flat]
  exact storeMembers_members object.members .empty known

theorem steps_decoded (data : Bytes) (m : Message) (decoded : decodeMessage data = some m) :
    Steps m (handleControlMessage decodeMessage data) := by
  unfold handleControlMessage
  rw [decoded]
  exact .inr ⟨true, .inr ⟨.ok ⟨0, controlChannelLabel⟩, .inl rfl⟩⟩

theorem rejects_undecoded (data : Bytes) (refused : decodeMessage data = none) :
    Rejects (handleControlMessage decodeMessage data) := by
  unfold handleControlMessage
  rw [refused]
  refine ⟨?_, ?_⟩
  · intro A c s t result executed
    cases executed
    rfl
  · intro pending
    cases pending
    · exact nofun
    · exact nofun

theorem decoded_of_steps (data : Bytes) (m : Message) (steps : Steps m (handleControlMessage decodeMessage data)) :
    ∃ n, decodeMessage data = some n := by
  cases decoded : decodeMessage data with
  | some n => exact ⟨n, rfl⟩
  | none =>
    unfold handleControlMessage at steps
    rw [decoded] at steps
    rcases steps with other | ⟨pending, rest⟩
    · cases other
    · cases pending
      · exact rest.elim
      · exact rest.elim

theorem Lenient.decoded {naming : Naming} {data : Bytes} (lenient : Lenient naming data) :
    ∃ m, decodeMessage data = some m := by
  rcases lenient with ⟨before, after, rfl⟩ | ⟨before, object, after, rfl, known, _⟩
  · exact ⟨.empty, by rw [decodeMessage, readValue_null]⟩
  · exact decodeMessage_flat before object after known

theorem entry_value (m n : Member) (same : m.entry = n.entry) : m.key = n.key ∧ (m.value = none → n.value = none) := by
  obtain ⟨keys, values⟩ := Prod.mk.inj same
  refine ⟨Subtype.ext keys, ?_⟩
  intro empty
  cases present : n.value with
  | none => rfl
  | some literal =>
    rw [empty, present] at values
    cases values

theorem Lenient.not_wellFormed {naming : Naming} {data : Bytes} (lenient : Lenient naming data) :
    ¬WellFormed naming data := by
  rintro ⟨before, object, after, same, members⟩
  have read := readValue_flat before object after.val
  rw [← same] at read
  rcases lenient with ⟨gap, rest, null⟩ | ⟨gap, other, rest, flat, _, corner⟩
  · have again := readValue_null gap rest
    rw [← null, read] at again
    cases again
  · have again := readValue_flat gap other rest
    rw [← flat, read] at again
    obtain ⟨objects, rests⟩ := Prod.mk.inj (Option.some.inj again)
    have entries := Value.object.inj objects
    have partner : ∀ m ∈ other.members, ∃ n ∈ object.members, n.entry = m.entry := by
      intro m member
      have inside := List.mem_map_of_mem (f := Member.entry) member
      rw [← entries] at inside
      exact List.mem_map.mp inside
    rcases corner with ⟨m, member, empty⟩ | ⟨m, member, unknown⟩ | ⟨c, member, visible⟩
    · obtain ⟨n, inside, twin⟩ := partner m member
      exact (members n inside).2 ((entry_value m n twin.symm).2 empty)
    · obtain ⟨n, inside, twin⟩ := partner m member
      rw [← (entry_value n m twin).1] at unknown
      exact unknown (members n inside).1
    · rw [← rests] at member
      rw [after.property c member] at visible
      cases visible

theorem wellFormed_of_decoded (naming : Naming) (data : Bytes) (m : Message) (decoded : decodeMessage data = some m)
    (strict : ¬Lenient naming data) : WellFormed naming data := by
  rcases decodeMessage_inv data m decoded with null | ⟨before, object, after, same, known⟩
  · exact absurd (.inl null) strict
  · have plain : ¬((∃ e ∈ object.members, e.value = none) ∨ (∃ e ∈ object.members, ¬Known naming e.key) ∨
        ∃ c ∈ after, JSON.isSpace c = false) :=
      fun corner => strict (.inr ⟨before, object, after, same, known, corner⟩)
    have blank : ∀ c ∈ after, JSON.isSpace c = true := by
      intro c member
      by_contra visible
      exact plain (.inr (.inr ⟨c, member, Bool.eq_false_iff.mpr visible⟩))
    refine ⟨before, object, ⟨after, blank⟩, same, ?_⟩
    intro e member
    constructor
    · by_contra unknown
      exact plain (.inr (.inl ⟨e, member, unknown⟩))
    · intro empty
      exact plain (.inl ⟨e, member, empty⟩)

theorem strictAt_iff (naming : Naming) (data : Bytes) : StrictAt naming data ↔ ¬Lenient naming data := by
  constructor
  · intro strict lenient
    obtain ⟨m, decoded⟩ := lenient.decoded
    exact lenient.not_wellFormed (strict.1 m (steps_decoded data m decoded))
  · intro strict
    constructor
    · intro m steps
      obtain ⟨n, decoded⟩ := decoded_of_steps data m steps
      exact wellFormed_of_decoded naming data n decoded strict
    · intro malformed
      apply rejects_undecoded
      cases decoded : decodeMessage data with
      | none => rfl
      | some n => exact absurd (wellFormed_of_decoded naming data n decoded strict) malformed

/-- The message survives the channel: what is sent for it is a well-formed frame, and decodes to it. -/
def Carried (m : Message) : Prop :=
  decodeMessage (marshalMessage m) = some m ∧ WellFormed .exact (marshalMessage m)

instance (s : Bytes) : Decidable (Safe s) := List.decidableBAll (fun c : UInt8 => htmlSafe c.toNat = true) s

theorem name_safe (f : MessageField) : Safe f.name := by
  cases f <;> decide +kernel

structure PlainMessage (m : Message) : Prop where
  safe : ∀ f, Safe (getField m f)
  kind : kindOf (kindText m.kind) = m.kind

section Marshal

variable {m : Message} (plain : PlainMessage m)

def noGap : Gap := ⟨[], nofun⟩

def PlainMessage.member (f : MessageField) : Member :=
  ⟨noGap, ⟨f.name, (name_safe f).body⟩, noGap, noGap, some ⟨getField m f, (plain.safe f).body⟩, noGap⟩

theorem PlainMessage.marshalMembers (f : MessageField) (rest : List MessageField) :
    WebRTC.marshalMembers m (f :: rest) ++ [0x7d] = (plain.member f).text ++ closing (rest.map plain.member) := by
  induction rest generalizing f with
  | nil =>
    rw [WebRTC.marshalMembers, (name_safe f).appendString, (plain.safe f).appendString, if_pos rfl]
    simp [Member.text, PlainMessage.member, noGap, spelling, closing]
  | cons next rest ih =>
    have tail := ih next
    rw [WebRTC.marshalMembers, (name_safe f).appendString, (plain.safe f).appendString, if_neg (by simp), List.map_cons,
      closing, ← tail]
    simp [Member.text, PlainMessage.member, noGap, spelling]

theorem PlainMessage.storeMember (acc : Message) (f : MessageField) :
    WebRTC.storeMember acc (plain.member f).entry = some (setField acc (getField m f) f) := by
  have known := storeMember_known acc f.name (.string (getField m f)) f.name f (name_safe f).unquote (findField_name f)
  dsimp only at known
  rw [(plain.safe f).unquote] at known
  exact known

theorem PlainMessage.storeMembers (fs : List MessageField) (acc : Message) :
    ((fs.map plain.member).map Member.entry).foldlM WebRTC.storeMember acc =
      some (fs.foldl (fun acc f => setField acc (getField m f) f) acc) := by
  induction fs generalizing acc with
  | nil => rfl
  | cons f rest ih =>
    rw [List.map_cons, List.map_cons, List.foldlM_cons, plain.storeMember acc f]
    exact ih _

end Marshal

theorem store_written (m acc : Message) (f : MessageField) (rest : List MessageField)
    (fresh : f.omitEmpty = true → getField acc f = []) :
    ((f :: rest).filter (isWritten m)).foldl (fun acc f => setField acc (getField m f) f) acc =
      (rest.filter (isWritten m)).foldl (fun acc f => setField acc (getField m f) f) (setField acc (getField m f) f) := by
  by_cases kept : isWritten m f = true
  · rw [List.filter_cons_of_pos kept]
    rfl
  · rw [List.filter_cons_of_neg kept]
    simp only [isWritten, Bool.not_eq_true, Bool.not_eq_false', Bool.and_eq_true, beq_iff_eq] at kept
    obtain ⟨optional, empty⟩ := kept
    have same : setField acc [] f = acc := by
      have before := fresh optional
      obtain ⟨⟩ := acc
      cases f with
      | scheme => cases optional
      | kind => cases optional
      | _ =>
        cases before
        rfl
    rw [empty, same]

theorem store_fields (m : Message) (kind : kindOf (kindText m.kind) = m.kind) :
    (messageFields.filter (isWritten m)).foldl (fun acc f => setField acc (getField m f) f) .empty = m := by
  have mandatory : ∀ {p : Prop}, false = true → p := fun h => nomatch h
  rw [messageFields, store_written _ _ _ _ mandatory, store_written _ _ _ _ mandatory, store_written _ _ _ _ fun _ => rfl,
    store_written _ _ _ _ fun _ => rfl, store_written _ _ _ _ fun _ => rfl, store_written _ _ _ _ fun _ => rfl]
  simp only [List.filter_nil, List.foldl_nil, setField, getField, kind]

def PlainMessage.object {m : Message} (plain : PlainMessage m) : FlatObject :=
  .filled (plain.member .scheme) ((.kind :: [MessageField.initiatorRole, .responderRole, .share, .confirmation].filter
    (isWritten m)).map plain.member)

theorem PlainMessage.members {m : Message} (plain : PlainMessage m) :
    plain.object.members = (messageFields.filter (isWritten m)).map plain.member := rfl

theorem PlainMessage.marshal {m : Message} (plain : PlainMessage m) : marshalMessage m = plain.object.text := by
  have head : messageFields.filter (isWritten m) =
      .scheme :: .kind :: [MessageField.initiatorRole, .responderRole, .share, .confirmation].filter (isWritten m) := rfl
  rw [marshalMessage, head, plain.marshalMembers]
  rfl

theorem PlainMessage.known {m : Message} (plain : PlainMessage m) (e : Member) (member : e ∈ plain.object.members) :
    Known .exact e.key ∧ e.value ≠ none := by
  rw [plain.members] at member
  obtain ⟨f, _, rfl⟩ := List.mem_map.mp member
  exact ⟨⟨f, (name_safe f).unquote⟩, nofun⟩

theorem PlainMessage.carried {m : Message} (plain : PlainMessage m) : Carried m := by
  have spelled : marshalMessage m = noGap.val ++ (plain.object.text ++ noGap.val) := by
    rw [plain.marshal]
    exact (List.append_nil _).symm
  refine ⟨?_, noGap, plain.object, noGap, spelled, plain.known⟩
  rw [spelled, decodeMessage, readValue_flat, plain.members]
  dsimp only
  rw [plain.storeMembers, store_fields m plain.kind]

theorem PlainMessage.trailing {m : Message} (plain : PlainMessage m) (naming : Naming) (c : UInt8) (rest : Bytes)
    (visible : JSON.isSpace c = false) : Lenient naming (marshalMessage m ++ c :: rest) := by
  refine .inr ⟨noGap, plain.object, c :: rest, ?_, ?_, .inr (.inr ⟨c, List.mem_cons_self, visible⟩)⟩
  · rw [plain.marshal]
    rfl
  · intro e member
    exact (plain.known e member).1.folded

theorem encodeToString_safe (bytes : Bytes) : Safe (RawURLEncoding.encodeToString bytes) := by
  have all : ∀ i : Fin 64, htmlSafe (RawURLEncoding.digit i).toNat = true := by decide +kernel
  intro c member
  obtain ⟨i, inside, rfl⟩ := List.mem_map.mp member
  exact all ⟨i, RawURLEncoding.sextets_lt bytes i inside⟩

theorem scheme_safe (scheme : Scheme) : Safe scheme.name := by
  cases scheme <;> decide +kernel

theorem kind_plain (kind : MessageKind) (named : kind = .hello ∨ kind = .accept ∨ kind = .confirm) :
    Safe (kindText kind) ∧ kindOf (kindText kind) = kind := by
  rcases named with rfl | rfl | rfl <;> exact ⟨by decide +kernel, rfl⟩

theorem plainMessage (m : Message) (scheme : Safe m.scheme)
    (kind : m.kind = .hello ∨ m.kind = .accept ∨ m.kind = .confirm) (initiatorRole : Safe m.initiatorRole)
    (responderRole : Safe m.responderRole) (share : Safe m.share) (confirmation : Safe m.confirmation) :
    PlainMessage m := by
  obtain ⟨safe, same⟩ := kind_plain m.kind kind
  refine ⟨?_, same⟩
  intro f
  cases f with
  | scheme => exact scheme
  | kind => exact safe
  | initiatorRole => exact initiatorRole
  | responderRole => exact responderRole
  | share => exact share
  | confirmation => exact confirmation

section Produced

variable {P : Primitives} (a : InteractiveAuthenticator P)

theorem helloMessage_plain : PlainMessage a.helloMessage := by
  have roles : Safe PeerMode.connect.string ∧ Safe PeerMode.expose.string := by decide +kernel
  exact plainMessage _ (scheme_safe a.scheme) (.inl rfl) roles.1 roles.2 (encodeToString_safe _) nofun

theorem acceptMessage_plain : PlainMessage a.acceptMessage :=
  plainMessage _ (scheme_safe a.scheme) (.inr (.inl rfl)) nofun nofun (encodeToString_safe _) (encodeToString_safe _)

theorem confirmMessage_plain : PlainMessage a.confirmMessage :=
  plainMessage _ (scheme_safe a.scheme) (.inr (.inr rfl)) nofun nofun nofun (encodeToString_safe _)

theorem start_plain (m : Message) (started : a.start.1 = .ok m) : PlainMessage m := by
  unfold InteractiveAuthenticator.start at started
  split at started
  · cases started
  split at started
  · cases started
  split at started
  · cases started
  · cases started
    exact helloMessage_plain a

theorem stepInitiator_plain (inbound : Message) (sent : (a.stepInitiator inbound).1.hasOutbound = true) :
    PlainMessage (a.stepInitiator inbound).1.outbound := by
  revert sent
  unfold InteractiveAuthenticator.stepInitiator
  split
  · exact nofun
  split
  · exact nofun
  split
  · exact nofun
  split
  · exact nofun
  split
  · exact nofun
  · exact fun _ => confirmMessage_plain _

theorem stepResponder_plain (inbound : Message) (sent : (a.stepResponder inbound).1.hasOutbound = true) :
    PlainMessage (a.stepResponder inbound).1.outbound := by
  revert sent
  unfold InteractiveAuthenticator.stepResponder
  split
  · split
    · exact nofun
    split
    · exact nofun
    split
    · exact nofun
    split
    · exact nofun
    · exact fun _ => acceptMessage_plain _
  · split
    · exact nofun
    split
    · exact nofun
    · exact nofun
  · exact nofun

theorem step_plain (inbound : Message) (sent : (a.step inbound).1.hasOutbound = true) :
    PlainMessage (a.step inbound).1.outbound := by
  revert sent
  unfold InteractiveAuthenticator.step
  split
  · exact nofun
  split
  · exact nofun
  split
  · exact nofun
  split
  · exact stepInitiator_plain a inbound
  · exact stepResponder_plain a inbound

end Produced

section Runs

variable (P : Primitives)

def wireNeeds : {β : Type} → Op β → Prop
  | _, .sendText _ message => PlainMessage message
  | _, _ => True

def wireGives : {β : Type} → Op β → β → Prop
  | _, .authStart, result => ∀ hello, result = .ok hello → PlainMessage hello
  | _, .authStep _, result => result.hasOutbound = true → PlainMessage result.outbound
  | _, _, _ => True

def WireInv (x : Recorded (interactive P)) : Prop := ∀ message ok, .sent message ok ∈ x.2 → PlainMessage message

theorem wire_sound {β : Type} (op : Op β) (c : Choice) (x y : Recorded (interactive P)) (result : β) (inv : WireInv P x)
    (need : wireNeeds op) (executed : (recordedMachine (interactive P)).exec op c x = some (result, y)) :
    WireInv P y ∧ wireGives op result := by
  obtain ⟨executed, deeds⟩ := recorded_exec executed
  constructor
  · intro message ok member
    rw [deeds] at member
    rcases List.mem_append.mp member with before | now
    · exact inv message ok before
    · have sends := note_sent op result x.1 message ok now
      cases op with
      | sendText =>
        cases sends
        exact need
      | _ => cases sends
  · cases op with
    | authStart =>
      obtain rfl : x.1.authenticator.start.1 = result := congrArg Prod.fst (Option.some.inj executed)
      exact start_plain x.1.authenticator
    | authStep inbound =>
      obtain rfl : (x.1.authenticator.step inbound).1 = result := congrArg Prod.fst (Option.some.inj executed)
      exact step_plain x.1.authenticator inbound
    | _ => trivial

def wireDiscipline : Discipline (recordedMachine (interactive P)) where
  inv := WireInv P
  grows _ _ := True
  refl _ := trivial
  trans _ _ _ _ _ := trivial
  meets _ _ := True
  needs op _ := wireNeeds op
  gives op result _ := wireGives op result
  sound op c x y result inv _ need executed := by
    obtain ⟨holds, given⟩ := wire_sound P op c x y result inv need executed
    exact ⟨holds, trivial, given⟩

theorem wire_voiced : Voiced (wireDiscipline P) where
  silent op s unvoiced := by
    cases op with
    | sendText => cases unvoiced
    | _ => trivial
  started hello _ given _ _ := given hello rfl
  answered _ _ _ given _ outbound _ _ := given outbound
  finished _ _ _ _ _ _ _ := trivial

theorem sent_carried (unmarshalString : Bytes → Option SessionDescription) (hasOnStream : Bool)
    (s : Session (interactive P)) (moves : List (Move Choice Call)) (p : Pool Op (Recorded (interactive P)) Call Outcome)
    (ran : (recordedSystem unmarshalString decodeMessage (interactive P) hasOnStream).run ⟨(s, []), []⟩ moves = some p)
    (message : Message) (ok : Bool) (sent : .sent message ok ∈ p.shared.2) : Carried message := by
  let system := recordedSystem unmarshalString decodeMessage (interactive P) hasOnStream
  let D : Discipline system.toMachine := wireDiscipline P
  have initial : Certified D (fun _ _ _ _ => True) (⟨(s, []), []⟩ : Pool Op (Recorded (interactive P)) Call Outcome) := by
    refine ⟨?_, by simp⟩
    intro message ok member
    cases member
  obtain ⟨certified, _⟩ := certified_run _ p moves initial
    (fun call x y entered holds => by
      rw [recorded_enter unmarshalString decodeMessage hasOnStream call x y entered]
      exact ⟨holds, trivial⟩)
    (fun i call x _ _ => (wire_voiced P).body unmarshalString decodeMessage hasOnStream call x)
    (Discipline.metBy_always D (fun _ _ => trivial) _ moves) ran
  exact (certified.inv message ok sent).carried

end Runs

/-- A frame is handled strictly exactly when it does not fall into one of the corners where the decoder is lenient, and
    whatever a session sends is accepted and arrives as it was sent. -/
theorem control_frame_strict_iff (naming : Naming) (data : Bytes) :
    (StrictAt naming data ↔ ¬Lenient naming data) ∧
      ∀ (P : Primitives) (unmarshalString : Bytes → Option SessionDescription) (hasOnStream : Bool)
        (s : Session (interactive P)) (moves : List (Move Choice Call))
        (p : Pool Op (Recorded (interactive P)) Call Outcome),
        (recordedSystem unmarshalString decodeMessage (interactive P) hasOnStream).run ⟨(s, []), []⟩ moves = some p →
          ∀ message ok, .sent message ok ∈ p.shared.2 → Carried message :=
  ⟨strictAt_iff naming data, sent_carried⟩

def unknownField : Bytes :=
  text "\x7b\"scheme\":\"rtc2tcp-auth/interactive-ecdh-v2a\",\"kind\":\"hello\",\"extra\":\"nope\"\x7d"

def describedSession : Session (interactive InteractiveAuthenticator.vectors) :=
  { connectedSession with state := .authPending, localFingerprint := ownPrint, remoteFingerprint := firstPrint }

def helloMoves : List (Move Choice Call) := .spawn (.controlOpen controlDC) :: List.replicate 7 (.run 0 granted)

def Deed.isSent : Deed → Bool
  | .sent _ _ => true
  | _ => false

theorem control_frame_strict_hello :
    StrictAt .exact unknownField ∧
      ∃ p, (recordedSystem parseChannel decodeMessage (interactive InteractiveAuthenticator.vectors) true).run
          ⟨(describedSession, []), []⟩ helloMoves = some p ∧
        ∃ message ok, .sent message ok ∈ p.shared.2 ∧ Carried message := by
  constructor
  · refine (control_frame_strict_iff .exact unknownField).1.mpr fun lenient => ?_
    obtain ⟨m, decoded⟩ := lenient.decoded
    have refused : decodeMessage unknownField = none := by decide +kernel
    rw [refused] at decoded
    cases decoded
  · have summary : ((recordedSystem parseChannel decodeMessage (interactive InteractiveAuthenticator.vectors) true).run
        ⟨(describedSession, []), []⟩ helloMoves).map (fun p => p.shared.2.any Deed.isSent) = some true := by
      decide +kernel
    obtain ⟨p, ran, sent⟩ := Option.map_eq_some_iff.mp summary
    refine ⟨p, ran, ?_⟩
    obtain ⟨d, member, hello⟩ := List.any_eq_true.mp sent
    cases d with
    | sent message ok =>
      exact ⟨message, ok, member, (control_frame_strict_iff .exact unknownField).2 _ _ _ _ _ p ran message ok member⟩
    | _ => cases hello

def trailingFrame : Bytes :=
  text "\x7b\"scheme\":\"rtc2tcp-auth/interactive-ecdh-v2a\",\"kind\":\"hello\"\x7dx"

theorem trailing_bytes_accepted : ¬StrictAt .exact trailingFrame ∧ ¬StrictAt .folded trailingFrame := by
  have plain : PlainMessage ⟨Scheme.transitionalV2.name, .hello, [], [], [], []⟩ :=
    plainMessage _ (scheme_safe .transitionalV2) (.inl rfl) nofun nofun nofun nofun
  have frame : trailingFrame = marshalMessage ⟨Scheme.transitionalV2.name, .hello, [], [], [], []⟩ ++ [0x78] := by
    decide +kernel
  have lenient : ∀ naming, Lenient naming trailingFrame := by
    intro naming
    rw [frame]
    exact plain.trailing naming 0x78 [] rfl
  constructor
  · exact fun strict => (strictAt_iff .exact trailingFrame).mp strict (lenient .exact)
  · exact fun strict => (strictAt_iff .folded trailingFrame).mp strict (lenient .folded)

end Rtc2Tcp.WebRTC
