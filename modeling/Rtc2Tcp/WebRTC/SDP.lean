import Rtc2Tcp.Auth.Authenticator

namespace Rtc2Tcp.WebRTC

open Octets Go

structure Attribute where
  key : Bytes
  value : Bytes
deriving DecidableEq, Repr

structure MediaDescription where
  media : Bytes
  attributes : List Attribute
deriving DecidableEq, Repr

/-- A parsed SDP text. The sections are pointers in the source, so one may be missing. -/
structure SessionDescription where
  attributes : List Attribute
  mediaDescriptions : List (Option MediaDescription)
deriving DecidableEq, Repr

inductive SDPError where
  | parse
  | applicationFingerprintNotFound
  | fingerprintNotFound
deriving DecidableEq, Repr

def extractFingerprintAttribute : List Attribute → Bytes
  | [] => []
  | attr :: rest =>
    if attr.key ≠ text "fingerprint" then extractFingerprintAttribute rest
    else trimSpace attr.value

/-- The loop over the sections: the first one of kind `application` decides. -/
def extractFromSections (sessionFingerprint : Bytes) :
    List (Option MediaDescription) → Except SDPError Bytes
  | [] =>
    if sessionFingerprint ≠ [] then .ok (toUpper sessionFingerprint) else .error .fingerprintNotFound
  | none :: rest => extractFromSections sessionFingerprint rest
  | some media :: rest =>
    if media.media ≠ text "application" then extractFromSections sessionFingerprint rest
    else
      let fingerprint := extractFingerprintAttribute media.attributes
      if fingerprint ≠ [] then .ok (toUpper fingerprint)
      else if sessionFingerprint ≠ [] then .ok (toUpper sessionFingerprint)
      else .error .applicationFingerprintNotFound

/-- `ExtractTransportFingerprint` over the SDP parser it calls. -/
def extractTransportFingerprint (unmarshalString : Bytes → Option SessionDescription) (rawSDP : Bytes) :
    Except SDPError Bytes :=
  match unmarshalString rawSDP with
  | none => .error .parse
  | some desc => extractFromSections (extractFingerprintAttribute desc.attributes) desc.mediaDescriptions

def fingerprintAttribute (attributes : List Attribute) : Option Bytes :=
  match attributes.find? fun attr => attr.key == text "fingerprint" with
  | some attr => if attr.value = [] then none else some attr.value
  | none => none

/-- The fingerprint the transport checks the certificate against: the one of the session level if
    there is one, else the one of the bundled section, else the first one of a section. Which
    section is the bundled one is left to the stack. -/
def verifiedFingerprint (bundledSection : SessionDescription → Option MediaDescription)
    (desc : SessionDescription) : Option Bytes :=
  (fingerprintAttribute desc.attributes).or
    (((bundledSection desc).bind fun media => fingerprintAttribute media.attributes).or
      ((desc.mediaDescriptions.filterMap id).findSome? fun media => fingerprintAttribute media.attributes))

def applicationSection (desc : SessionDescription) : Option MediaDescription :=
  (desc.mediaDescriptions.filterMap id).find? fun media => media.media == text "application"

def applicationFingerprint (desc : SessionDescription) : Bytes :=
  match applicationSection desc with
  | some media => extractFingerprintAttribute media.attributes
  | none => []

theorem extractFromSections_ok (session : Bytes) (sections : List (Option MediaDescription)) (f : Bytes)
    (ok : extractFromSections session sections = .ok f) :
    let application := match (sections.filterMap id).find? fun media => media.media == text "application" with
      | some media => extractFingerprintAttribute media.attributes
      | none => []
    (application ≠ [] ∧ f = toUpper application) ∨ (application = [] ∧ session ≠ [] ∧ f = toUpper session) := by
  induction sections with
  | nil =>
    simp only [extractFromSections] at ok
    split at ok
    · rename_i present
      cases ok
      exact .inr ⟨rfl, present, rfl⟩
    · cases ok
  | cons head rest ih =>
    cases head with
    | none => exact ih ok
    | some media =>
      simp only [extractFromSections] at ok
      split at ok
      · rename_i other
        have skipped : (media.media == text "application") = false := by simpa using other
        simp only [List.filterMap_cons, id_eq, List.find?_cons, skipped]
        exact ih ok
      · rename_i application
        have found : (media.media == text "application") = true := by simpa using application
        simp only [List.filterMap_cons, id_eq, List.find?_cons, found]
        split at ok
        · rename_i own
          cases ok
          exact .inl ⟨own, rfl⟩
        · rename_i blank
          split at ok
          · rename_i present
            cases ok
            exact .inr ⟨by simpa using blank, present, rfl⟩
          · cases ok

theorem extractTransportFingerprint_ok (unmarshalString : Bytes → Option SessionDescription)
    (raw : Bytes) (desc : SessionDescription) (f : Bytes) (parsed : unmarshalString raw = some desc)
    (ok : extractTransportFingerprint unmarshalString raw = .ok f) :
    (applicationFingerprint desc ≠ [] ∧ f = toUpper (applicationFingerprint desc)) ∨
      (applicationFingerprint desc = [] ∧ extractFingerprintAttribute desc.attributes ≠ [] ∧
        f = toUpper (extractFingerprintAttribute desc.attributes)) := by
  rw [extractTransportFingerprint, parsed] at ok
  exact extractFromSections_ok _ _ f ok

theorem extractFingerprintAttribute_eq (attributes : List Attribute) :
    extractFingerprintAttribute attributes =
      match attributes.find? fun attr => attr.key == text "fingerprint" with
      | some attr => trimSpace attr.value
      | none => [] := by
  induction attributes with
  | nil => rfl
  | cons attr rest ih =>
    by_cases key : attr.key = text "fingerprint"
    · simp [extractFingerprintAttribute, key]
    · simp [extractFingerprintAttribute, key, ih]

theorem fingerprintAttribute_of_extract (attributes : List Attribute)
    (present : extractFingerprintAttribute attributes ≠ []) :
    ∃ value, fingerprintAttribute attributes = some value ∧
      extractFingerprintAttribute attributes = trimSpace value := by
  rw [extractFingerprintAttribute_eq] at present ⊢
  unfold fingerprintAttribute
  cases found : attributes.find? fun attr => attr.key == text "fingerprint" with
  | none => simp [found] at present
  | some attr =>
    simp only [found] at present
    have nonempty : attr.value ≠ [] := by
      intro empty
      rw [empty] at present
      exact present rfl
    exact ⟨attr.value, by simp [nonempty], rfl⟩

/-- No fingerprint that ranks before the application section for the stack contradicts it: the
    section has none of its own, or the one of the session level spells the same, or there is none
    and the one of the bundled section does, or there is neither and the first one does. -/
def ApplicationUncontested (bundledSection : SessionDescription → Option MediaDescription)
    (desc : SessionDescription) : Prop :=
  applicationFingerprint desc = [] ∨
    match fingerprintAttribute desc.attributes with
    | some session => toUpper (trimSpace session) = toUpper (applicationFingerprint desc)
    | none =>
      match (bundledSection desc).bind fun media => fingerprintAttribute media.attributes with
      | some bundled => toUpper (trimSpace bundled) = toUpper (applicationFingerprint desc)
      | none => ∀ first, (desc.mediaDescriptions.filterMap id).findSome?
          (fun media => fingerprintAttribute media.attributes) = some first →
        toUpper (trimSpace first) = toUpper (applicationFingerprint desc)

theorem applicationUncontested_of_own (bundledSection : SessionDescription → Option MediaDescription)
    (desc : SessionDescription) (verified : Bytes) (own : applicationFingerprint desc ≠ [])
    (accepted : verifiedFingerprint bundledSection desc = some verified) :
    ApplicationUncontested bundledSection desc ↔
      toUpper (trimSpace verified) = toUpper (applicationFingerprint desc) := by
  unfold ApplicationUncontested
  rw [or_iff_right own]
  unfold verifiedFingerprint at accepted
  cases session : fingerprintAttribute desc.attributes with
  | some value =>
    rw [session] at accepted
    cases accepted
    exact Iff.rfl
  | none =>
    rw [session, Option.none_or] at accepted
    cases bundled : (bundledSection desc).bind fun media => fingerprintAttribute media.attributes with
    | some value =>
      rw [bundled] at accepted
      cases accepted
      exact Iff.rfl
    | none =>
      rw [bundled, Option.none_or] at accepted
      simp only [accepted, Option.some.injEq, forall_eq']

/-- The extracted fingerprint is the one the transport verifies, up to case and white space,
    exactly when nothing that ranks before the application section contradicts it. -/
theorem extractTransportFingerprint_verified_iff (unmarshalString : Bytes → Option SessionDescription)
    (bundledSection : SessionDescription → Option MediaDescription) (raw : Bytes) (desc : SessionDescription)
    (f verified : Bytes) (parsed : unmarshalString raw = some desc)
    (ok : extractTransportFingerprint unmarshalString raw = .ok f)
    (accepted : verifiedFingerprint bundledSection desc = some verified) :
    f = toUpper (trimSpace verified) ↔ ApplicationUncontested bundledSection desc := by
  rcases extractTransportFingerprint_ok unmarshalString raw desc f parsed ok with
    ⟨own, rfl⟩ | ⟨none, present, rfl⟩
  · rw [applicationUncontested_of_own bundledSection desc verified own accepted]
    exact eq_comm
  · obtain ⟨value, read, trimmed⟩ := fingerprintAttribute_of_extract desc.attributes present
    have taken : verified = value := by
      rw [verifiedFingerprint, read] at accepted
      exact (Option.some.inj accepted).symm
    constructor
    · intro _
      left
      exact none
    · intro _
      rw [taken, trimmed]

section Conflict

def conflictingSDP : Bytes :=
  text "v=0\r\no=- 0 0 IN IP4 127.0.0.1\r\ns=-\r\nt=0 0\r\n" ++
    (text "a=fingerprint:sha-256 11:11:11:11\r\n" ++
      (text "m=audio 9 UDP/TLS/RTP/SAVPF 111\r\na=fingerprint:sha-256 22:22:22:22\r\n" ++
        text "m=application 9 UDP/DTLS/SCTP webrtc-datachannel\r\na=fingerprint:sha-256 33:33:33:33\r\n"))

def conflictingDescription : SessionDescription :=
  { attributes := [⟨text "fingerprint", text "sha-256 11:11:11:11"⟩]
    mediaDescriptions :=
      [some ⟨text "audio", [⟨text "fingerprint", text "sha-256 22:22:22:22"⟩]⟩,
        some ⟨text "application", [⟨text "fingerprint", text "sha-256 33:33:33:33"⟩]⟩] }

def parseConflicting (raw : Bytes) : Option SessionDescription :=
  if raw = conflictingSDP then some conflictingDescription else none

/-- The transport verifies the fingerprint of the session level, the authenticator is bound to the
    one of the application section. -/
theorem extractTransportFingerprint_contested :
    parseConflicting conflictingSDP = some conflictingDescription ∧
    extractTransportFingerprint parseConflicting conflictingSDP = .ok (text "SHA-256 33:33:33:33") ∧
    verifiedFingerprint (fun _ => none) conflictingDescription = some (text "sha-256 11:11:11:11") ∧
    text "SHA-256 33:33:33:33" ≠ toUpper (trimSpace (text "sha-256 11:11:11:11")) := by
  decide +kernel

theorem extractTransportFingerprint_verified_iff_conflicting :
    ¬ ApplicationUncontested (fun _ => none) conflictingDescription := by
  intro uncontested
  have same := (extractTransportFingerprint_verified_iff parseConflicting (fun _ => none) conflictingSDP
    conflictingDescription (text "SHA-256 33:33:33:33") (text "sha-256 11:11:11:11") (by decide +kernel)
    (by decide +kernel) (by decide +kernel)).mpr uncontested
  revert same
  decide +kernel

end Conflict

end Rtc2Tcp.WebRTC
