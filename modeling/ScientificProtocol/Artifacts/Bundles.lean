import ScientificProtocol.Artifacts.Transport
import ScientificProtocol.Js.Text

/-!
# Manifests of storage bundles

`buildArtifactStorageBundleManifest` and `verifyArtifactStorageBundleManifest` of
`src/shared/artifact-storage-bundles.ts`. A manifest lists the artifacts of a bundle in the order of
their keys, and has a digest of the text of everything else in it. Whoever reads the manifest has
got it as JSON, and computes the digest again.

So the digest is of the value in memory, and is compared with that of the value that was sent. A
manifest does what it is for exactly if the metadata are settled, no two keys are tied, and there is
no `null` in it (`sound_iff`).
-/

namespace ScientificProtocol.Artifacts

open Js AgentRequests StableSort

/-! ### The source -/

abbrev Text : Type := List CodeUnit

/-- A text of the source. -/
def lit (text : String) : Text := units (points text)

inductive ArtifactDurabilityClass where
  | A | B | C | D

def ArtifactDurabilityClass.text : ArtifactDurabilityClass → Text
  | .A => lit "A"
  | .B => lit "B"
  | .C => lit "C"
  | .D => lit "D"

/-- The artifact of an input. A length that is not a number is `none`. -/
structure ArtifactInput where
  artifactKey : Text
  byteLength : Option JsNumber
  cid : Text
  contentType : Text
  durabilityClass : ArtifactDurabilityClass
  memberPath : Text
  metadata : Option Value
  sha256 : Text
  sourceUri : Option Text

structure ManifestInput where
  artifacts : List ArtifactInput
  bundleCid : Option Text
  bundleKey : Text
  bundleUri : Option Text
  generatedAt : Option Text
  metadata : Option Value
  storageRail : Text

structure Artifact where
  artifactKey : Text
  byteLength : JsNumber
  cid : Text
  contentType : Text
  durabilityClass : ArtifactDurabilityClass
  memberPath : Text
  metadata : Value
  sha256 : Text
  sourceUri : Option Text

structure Manifest where
  artifacts : List Artifact
  bundleCid : Option Text
  bundleKey : Text
  bundleUri : Option Text
  generatedAt : Text
  metadata : Value
  storageRail : Text
  manifestDigest : Text

inductive BundleError where
  /-- `${fieldName} is required` -/
  | required (fieldName : Text)
  /-- `artifact storage bundle must include at least one artifact` -/
  | noArtifacts
  /-- `artifact bundle memberPath must be relative and safe` -/
  | unsafePath
  /-- `artifact ${artifactKey} byteLength must be a non-negative safe integer` -/
  | byteLength (artifactKey : Text)
  /-- `artifact ${artifactKey} sha256 must be 64 lowercase hex characters` -/
  | sha256 (artifactKey : Text)
  /-- `artifact bundle memberPath duplicates ${memberPath}` -/
  | duplicatePath (memberPath : Text)
  /-- `artifact bundle artifactKey duplicates ${artifactKey}` -/
  | duplicateKey (artifactKey : Text)
  /-- `artifact storage bundle manifestDigest mismatch: expected ${expected}, received
  ${received}` -/
  | mismatch (expected : Text) (received : Option JsValue)

/-- The collation of the host, and SHA-256, which is taken to have no collisions. -/
structure Host where
  collator : Collator
  sha256Hex : String → Text
  sha256Hex_injective : Function.Injective sha256Hex

def isSpaceUnit (u : CodeUnit) : Bool := isSpace (Char.ofNat u.val)

/-- `text.trim()` -/
def trimmed (text : Text) : Text := (text.dropWhile isSpaceUnit).rdropWhile isSpaceUnit

/-- `text.toLowerCase()`, as far as it makes letters of ASCII: no other letter becomes one from `a`
to `f`. -/
def lowered (text : Text) : Text :=
  text.map fun u => if h : 65 ≤ u.val ∧ u.val ≤ 90 then ⟨u.val + 32, by omega⟩ else u

def normalizeRequiredText (value fieldName : Text) : Except BundleError Text :=
  if trimmed value = [] then .error (.required fieldName) else .ok (trimmed value)

def normalizeOptionalText (value : Option Text) : Option Text :=
  value.bind fun text => if trimmed text = [] then none else some (trimmed text)

def slash : CodeUnit := ⟨0x2F, by decide⟩

def normalizeMemberPath (value : Text) : Except BundleError Text := do
  let text ← normalizeRequiredText value (lit "artifact bundle memberPath")
  let normalized := text.map fun u => if u.val = 0x5C then slash else u
  let segments := normalized.splitOn slash
  if normalized.head? = some slash ∨
      ∃ segment ∈ segments, segment = [] ∨ segment = lit "." ∨ segment = lit ".." then
    .error .unsafePath
  else .ok normalized

/-- `Number.isSafeInteger(value) && value >= 0` -/
def isSafeLength : JsNumber → Bool
  | .zero _ => true
  | .finite d => !d.negative && (d.digits.length : ℤ) ≤ d.point &&
      d.significand * 10 ^ (d.point - d.digits.length).toNat < 2 ^ 53
  | .infinite _ => false

def normalizeByteLength (value : Option JsNumber) (artifactKey : Text) :
    Except BundleError JsNumber :=
  match value with
  | some n => if isSafeLength n then .ok n else .error (.byteLength artifactKey)
  | none => .error (.byteLength artifactKey)

/-- `[a-f0-9]` -/
def isHexUnit (u : CodeUnit) : Bool := (97 ≤ u.val && u.val ≤ 102) || (48 ≤ u.val && u.val ≤ 57)

def normalizeSha256 (value artifactKey : Text) : Except BundleError Text := do
  let text ← normalizeRequiredText value (lit "artifact " ++ artifactKey ++ lit " sha256")
  if (lowered text).length = 64 ∧ (lowered text).all isHexUnit then .ok (lowered text)
  else .error (.sha256 artifactKey)

/-- `metadata ?? {}` -/
def orEmpty : Option Value → Value
  | none | some .null => .object []
  | some metadata => metadata

def normalizeArtifact (artifact : ArtifactInput) : Except BundleError Artifact := do
  let artifactKey ← normalizeRequiredText artifact.artifactKey (lit "artifactKey")
  let byteLength ← normalizeByteLength artifact.byteLength artifactKey
  let cid ← normalizeRequiredText artifact.cid (lit "artifact " ++ artifactKey ++ lit " cid")
  let contentType ← normalizeRequiredText artifact.contentType
    (lit "artifact " ++ artifactKey ++ lit " contentType")
  let memberPath ← normalizeMemberPath artifact.memberPath
  let sha256 ← normalizeSha256 artifact.sha256 artifactKey
  .ok ⟨artifactKey, byteLength, cid, contentType, artifact.durabilityClass, memberPath,
    orEmpty artifact.metadata, sha256, normalizeOptionalText artifact.sourceUri⟩

def normalizeArtifacts : List ArtifactInput → Except BundleError (List Artifact)
  | [] => .ok []
  | artifact :: artifacts => do
    let normalized ← normalizeArtifact artifact
    let others ← normalizeArtifacts artifacts
    .ok (normalized :: others)

/-- The first path or key that comes twice. -/
def findDuplicate : List Text → List Text → List Artifact → Option BundleError
  | _, _, [] => none
  | paths, keys, artifact :: artifacts =>
    if artifact.memberPath ∈ paths then some (.duplicatePath artifact.memberPath)
    else if artifact.artifactKey ∈ keys then some (.duplicateKey artifact.artifactKey)
    else findDuplicate (artifact.memberPath :: paths) (artifact.artifactKey :: keys) artifacts

/-- A text, or `null`. -/
def textOrNull (text : Option Text) : Value := text.elim .null .string

def Artifact.members (artifact : Artifact) : List (Text × Value) := [
  (lit "artifactKey", .string artifact.artifactKey),
  (lit "byteLength", .number (.number artifact.byteLength)),
  (lit "cid", .string artifact.cid),
  (lit "contentType", .string artifact.contentType),
  (lit "durabilityClass", .string artifact.durabilityClass.text),
  (lit "memberPath", .string artifact.memberPath),
  (lit "metadata", artifact.metadata),
  (lit "sha256", .string artifact.sha256),
  (lit "sourceUri", textOrNull artifact.sourceUri)]

/-- A manifest without its digest. -/
def Manifest.baseMembers (manifest : Manifest) : List (Text × Value) := [
  (lit "artifacts", .array (manifest.artifacts.map fun artifact => .object artifact.members)),
  (lit "bundleCid", textOrNull manifest.bundleCid),
  (lit "bundleKey", .string manifest.bundleKey),
  (lit "bundleUri", textOrNull manifest.bundleUri),
  (lit "generatedAt", .string manifest.generatedAt),
  (lit "kind", .string (lit "scientific.artifact-storage-bundle")),
  (lit "metadata", manifest.metadata),
  (lit "storageRail", .string manifest.storageRail),
  (lit "version", .number (.number (.finite ⟨false, 1, 1, by decide, by decide⟩)))]

def digestKey : Text := lit "manifestDigest"

def Manifest.members (manifest : Manifest) : List (Text × Value) :=
  manifest.baseMembers ++ [(digestKey, .string manifest.manifestDigest)]

section

variable (host : Host)

def byArtifactKey (left right : Artifact) : Bool :=
  host.collator.le left.artifactKey right.artifactKey

def digestOf (text : String) : Text := lit "sha256:" ++ host.sha256Hex text

/-- The manifest of artifacts that are in order and have no key and no path twice. -/
def manifestOf (now : Text) (input : ManifestInput) (bundleKey storageRail : Text)
    (artifacts : List Artifact) : Manifest :=
  let base : Manifest := ⟨artifacts, normalizeOptionalText input.bundleCid, bundleKey,
    normalizeOptionalText input.bundleUri, input.generatedAt.getD now,
    orEmpty input.metadata, storageRail, []⟩
  { base with
    manifestDigest := digestOf host (stableSerialize host.collator (.object base.baseMembers)) }

def buildArtifactStorageBundleManifest (now : Text) (input : ManifestInput) :
    Except BundleError Manifest := do
  let bundleKey ← normalizeRequiredText input.bundleKey (lit "bundleKey")
  let storageRail ← normalizeRequiredText input.storageRail (lit "storageRail")
  if input.artifacts = [] then .error .noArtifacts
  else
    let normalized ← normalizeArtifacts input.artifacts
    let artifacts := normalized.mergeSort (byArtifactKey host)
    match findDuplicate [] [] artifacts with
    | some e => .error e
    | none => .ok (manifestOf host now input bundleKey storageRail artifacts)

/-- What `JSON.parse` makes of the `JSON.stringify` of a manifest. -/
def Manifest.transported (manifest : Manifest) : List (Text × JsValue) :=
  imageMembers manifest.members

/-- `const { manifestDigest, ...digestInput } = manifest` -/
def digestInput (members : List (Text × JsValue)) : List (Text × JsValue) :=
  members.filter fun member => member.1 ≠ digestKey

def declaredDigest (members : List (Text × JsValue)) : Option JsValue :=
  (members.find? fun member => member.1 = digestKey).map Prod.snd

def verifyArtifactStorageBundleManifest (members : List (Text × JsValue)) :
    Except BundleError Text :=
  let expected :=
    digestOf host (Server.stableSerialize host.collator (.object (digestInput members)))
  match declaredDigest members with
  | some (.string declared) =>
    if declared = expected then .ok expected
    else .error (.mismatch expected (some (.string declared)))
  | declared => .error (.mismatch expected declared)

end

/-! ### What is built -/

theorem except_bind_eq_ok {ε α β : Type} {x : Except ε α} {f : α → Except ε β} {b : β} :
    (x >>= f) = .ok b ↔ ∃ a, x = .ok a ∧ f a = .ok b := by
  cases x with
  | error e => exact iff_of_false nofun fun ⟨_, h, _⟩ => nomatch h
  | ok a => exact ⟨fun h => ⟨a, rfl, h⟩, fun ⟨a', ha, h⟩ => Except.ok.inj ha ▸ h⟩

theorem normalizeRequiredText_eq_ok {value fieldName text : Text}
    (h : normalizeRequiredText value fieldName = .ok text) : text = trimmed value := by
  rw [normalizeRequiredText] at h
  split at h
  next => cases h
  next => exact (Except.ok.inj h).symm

theorem isSafeLength_of_normalize {value : Option JsNumber} {artifactKey : Text} {n : JsNumber}
    (h : normalizeByteLength value artifactKey = .ok n) : isSafeLength n = true := by
  cases value with
  | none => cases h
  | some n' =>
    rw [normalizeByteLength] at h
    split at h
    next hsafe => exact Except.ok.inj h ▸ hsafe
    next => cases h

/-- What an artifact keeps of the input. -/
theorem normalizeArtifact_eq_ok {input : ArtifactInput} {artifact : Artifact}
    (h : normalizeArtifact input = .ok artifact) :
    artifact.artifactKey = trimmed input.artifactKey ∧ artifact.metadata = orEmpty input.metadata ∧
      artifact.sourceUri = normalizeOptionalText input.sourceUri ∧
        isSafeLength artifact.byteLength = true := by
  obtain ⟨artifactKey, hkey, h⟩ := except_bind_eq_ok.mp h
  obtain ⟨byteLength, hlength, h⟩ := except_bind_eq_ok.mp h
  obtain ⟨cid, -, h⟩ := except_bind_eq_ok.mp h
  obtain ⟨contentType, -, h⟩ := except_bind_eq_ok.mp h
  obtain ⟨memberPath, -, h⟩ := except_bind_eq_ok.mp h
  obtain ⟨sha256, -, h⟩ := except_bind_eq_ok.mp h
  obtain rfl := Except.ok.inj h
  exact ⟨normalizeRequiredText_eq_ok hkey, rfl, rfl, isSafeLength_of_normalize hlength⟩

theorem normalizeArtifacts_eq_ok {inputs : List ArtifactInput} {artifacts : List Artifact} :
    normalizeArtifacts inputs = .ok artifacts ↔
      List.Forall₂ (fun input artifact => normalizeArtifact input = .ok artifact) inputs
        artifacts := by
  induction inputs generalizing artifacts with
  | nil =>
    rw [List.forall₂_nil_left_iff]
    exact ⟨fun h => (Except.ok.inj h).symm, fun h => h ▸ rfl⟩
  | cons input inputs ih =>
    rw [List.forall₂_cons_left_iff, normalizeArtifacts, except_bind_eq_ok]
    constructor
    · rintro ⟨artifact, hinput, h⟩
      obtain ⟨others, hothers, h⟩ := except_bind_eq_ok.mp h
      exact ⟨artifact, others, hinput, ih.mp hothers, (Except.ok.inj h).symm⟩
    · rintro ⟨artifact, others, hinput, hothers, rfl⟩
      exact ⟨artifact, hinput, except_bind_eq_ok.mpr ⟨others, ih.mpr hothers, rfl⟩⟩

theorem findDuplicate_eq_none {paths keys : List Text} {artifacts : List Artifact} :
    findDuplicate paths keys artifacts = none ↔
      ((artifacts.map Artifact.memberPath).Nodup ∧ ∀ a ∈ artifacts, a.memberPath ∉ paths) ∧
        (artifacts.map Artifact.artifactKey).Nodup ∧ ∀ a ∈ artifacts, a.artifactKey ∉ keys := by
  induction artifacts generalizing paths keys with
  | nil => simp [findDuplicate]
  | cons artifact artifacts ih =>
    rw [findDuplicate]
    split
    next hpath =>
      exact iff_of_false nofun fun h => h.1.2 artifact List.mem_cons_self hpath
    next hpath =>
      split
      next hkey => exact iff_of_false nofun fun h => h.2.2 artifact List.mem_cons_self hkey
      next hkey =>
        rw [ih]
        simp only [List.map_cons, List.nodup_cons, List.mem_map, List.forall_mem_cons, not_exists,
          not_and]
        simp only [List.mem_cons, not_or]
        constructor
        · rintro ⟨⟨hpaths, hfresh⟩, hkeys, hfresh'⟩
          exact ⟨⟨⟨fun a ha => (hfresh a ha).1, hpaths⟩, hpath, fun a ha => (hfresh a ha).2⟩,
            ⟨fun a ha => (hfresh' a ha).1, hkeys⟩, hkey, fun a ha => (hfresh' a ha).2⟩
        · rintro ⟨⟨⟨hne, hpaths⟩, -, hfresh⟩, ⟨hne', hkeys⟩, -, hfresh'⟩
          exact ⟨⟨hpaths, fun a ha => ⟨hne a ha, hfresh a ha⟩⟩, hkeys, fun a ha =>
            ⟨hne' a ha, hfresh' a ha⟩⟩

section

variable {host : Host} {now : Text} {input : ManifestInput} {manifest : Manifest}

/-- **What a manifest is built of.** -/
theorem build_eq_ok_iff :
    buildArtifactStorageBundleManifest host now input = .ok manifest ↔
      ∃ bundleKey storageRail normalized,
        normalizeRequiredText input.bundleKey (lit "bundleKey") = .ok bundleKey ∧
        normalizeRequiredText input.storageRail (lit "storageRail") = .ok storageRail ∧
        input.artifacts ≠ [] ∧
        List.Forall₂ (fun input artifact => normalizeArtifact input = .ok artifact) input.artifacts
          normalized ∧
        (normalized.map Artifact.memberPath).Nodup ∧ (normalized.map Artifact.artifactKey).Nodup ∧
        manifest = manifestOf host now input bundleKey storageRail
          (normalized.mergeSort (byArtifactKey host)) := by
  have hsorted : ∀ normalized : List Artifact,
      findDuplicate [] [] (normalized.mergeSort (byArtifactKey host)) = none ↔
        (normalized.map Artifact.memberPath).Nodup ∧
          (normalized.map Artifact.artifactKey).Nodup := by
    intro normalized
    have hperm := List.mergeSort_perm normalized (byArtifactKey host)
    rw [findDuplicate_eq_none, (hperm.map _).nodup_iff, (hperm.map _).nodup_iff]
    simp
  rw [buildArtifactStorageBundleManifest]
  constructor
  · intro h
    obtain ⟨bundleKey, hkey, h⟩ := except_bind_eq_ok.mp h
    obtain ⟨storageRail, hrail, h⟩ := except_bind_eq_ok.mp h
    split at h
    next => cases h
    next hartifacts =>
      obtain ⟨normalized, hnormalized, h⟩ := except_bind_eq_ok.mp h
      simp only at h
      split at h
      next => cases h
      next hduplicate =>
        obtain ⟨hpaths, hkeys⟩ := (hsorted normalized).mp hduplicate
        exact ⟨bundleKey, storageRail, normalized, hkey, hrail, hartifacts,
          normalizeArtifacts_eq_ok.mp hnormalized, hpaths, hkeys, (Except.ok.inj h).symm⟩
  · rintro ⟨bundleKey, storageRail, normalized, hkey, hrail, hartifacts, hnormalized, hpaths, hkeys,
      rfl⟩
    refine except_bind_eq_ok.mpr ⟨bundleKey, hkey, except_bind_eq_ok.mpr ⟨storageRail, hrail, ?_⟩⟩
    rw [if_neg hartifacts]
    refine except_bind_eq_ok.mpr ⟨normalized, normalizeArtifacts_eq_ok.mpr hnormalized, ?_⟩
    simp only [(hsorted normalized).mpr ⟨hpaths, hkeys⟩]

end

/-! ### What is sent -/

/-- The metadata of a bundle and of its artifacts. -/
def ManifestInput.allMetadata (input : ManifestInput) : List Value :=
  orEmpty input.metadata :: input.artifacts.map fun artifact => orEmpty artifact.metadata

/-- The texts of an input that can be left out. -/
def ManifestInput.optionalTexts (input : ManifestInput) : List (Option Text) :=
  input.bundleCid :: input.bundleUri :: input.artifacts.map ArtifactInput.sourceUri

theorem nodup_artifactKeys (artifact : Artifact) : (artifact.members.map Prod.fst).Nodup := by
  have hkeys : [lit "artifactKey", lit "byteLength", lit "cid", lit "contentType",
      lit "durabilityClass", lit "memberPath", lit "metadata", lit "sha256",
      lit "sourceUri"].Nodup := by
    decide
  exact hkeys

theorem nodup_manifestKeys (manifest : Manifest) :
    (manifest.members.map Prod.fst).Nodup := by
  have hkeys : [lit "artifacts", lit "bundleCid", lit "bundleKey", lit "bundleUri",
      lit "generatedAt", lit "kind", lit "metadata", lit "storageRail", lit "version",
      digestKey].Nodup := by
    decide
  exact hkeys

theorem good_textOrNull (text : Option Text) : Good (textOrNull text) := by
  cases text <;> exact ⟨True.intro, True.intro⟩

/-- The metadata of a manifest. -/
def Manifest.allMetadata (manifest : Manifest) : List Value :=
  manifest.metadata :: manifest.artifacts.map Artifact.metadata

def Manifest.optionalTexts (manifest : Manifest) : List (Option Text) :=
  manifest.bundleCid :: manifest.bundleUri :: manifest.artifacts.map Artifact.sourceUri

theorem good_artifact {artifact : Artifact} (h : Good artifact.metadata) :
    Good (.object artifact.members) := by
  refine .of_object (nodup_artifactKeys artifact) ?_
  have hplain : ∀ text : Text, Good (.string text) := fun _ => ⟨True.intro, True.intro⟩
  simp only [Artifact.members, List.forall_mem_cons]
  exact ⟨hplain _, ⟨True.intro, True.intro⟩, hplain _, hplain _, hplain _, hplain _, h, hplain _,
    good_textOrNull _, fun _ h => absurd h List.not_mem_nil⟩

theorem good_base {manifest : Manifest} (h : ∀ v ∈ manifest.allMetadata, Good v) :
    Good (.object manifest.baseMembers) := by
  refine .of_object ?_ ?_
  · have hnodup := nodup_manifestKeys manifest
    rw [Manifest.members, List.map_append] at hnodup
    exact hnodup.of_append_left
  · have hplain : ∀ text : Text, Good (.string text) := fun _ => ⟨True.intro, True.intro⟩
    simp only [Manifest.baseMembers, List.forall_mem_cons]
    exact ⟨.of_array (List.forall_mem_map.mpr fun artifact hartifact => good_artifact
        (h _ (List.mem_cons_of_mem _ (List.mem_map_of_mem hartifact)))),
      good_textOrNull _, hplain _, good_textOrNull _, hplain _, hplain _, h _ List.mem_cons_self,
      hplain _, ⟨True.intro, True.intro⟩, fun _ h => absurd h List.not_mem_nil⟩

section

variable {host : Host} {manifest : Manifest}

theorem settled_textOrNull (text : Option Text) :
    (image (textOrNull text)).isSome ∧ Settled host.collator (textOrNull text) := by
  cases text <;> exact ⟨rfl, True.intro⟩

/-- A manifest is settled if its metadata are. -/
theorem settled_base_iff : Settled host.collator (.object manifest.baseMembers) ↔
    ∀ v ∈ manifest.allMetadata, (image v).isSome ∧ Settled host.collator v := by
  have htext : ∀ text : Option Text, (image (textOrNull text)).isSome ∧
      Settled host.collator (textOrNull text) := settled_textOrNull
  have hplain : ∀ text : Text, (image (.string text)).isSome ∧
      Settled host.collator (.string text) := fun _ => ⟨rfl, True.intro⟩
  have hnumber : ∀ n : JsNumber, (image (.number (.number n))).isSome ∧
      Settled host.collator (.number (.number n)) := fun n => by
    cases n <;> exact ⟨rfl, True.intro⟩
  have hartifact : ∀ artifact : Artifact, Settled host.collator (.object artifact.members) ↔
      (image artifact.metadata).isSome ∧ Settled host.collator artifact.metadata := by
    intro artifact
    rw [settled_object]
    simp only [Artifact.members, List.forall_mem_cons, hplain, htext, hnumber, List.not_mem_nil,
      false_implies, implies_true, and_true, true_and]
  rw [settled_object, Manifest.allMetadata, List.forall_mem_cons, List.forall_mem_map]
  simp only [Manifest.baseMembers, List.forall_mem_cons, hplain, htext, hnumber, List.not_mem_nil,
    false_implies, implies_true, and_true, true_and, settled_array, List.forall_mem_map, hartifact]
  rw [and_comm]
  exact and_congr_right fun _ => and_iff_right rfl

theorem noNullSent_textOrNull {text : Option Text} :
    NoNullSent (textOrNull text) ↔ text.isSome = true := by
  cases text with
  | none => exact iff_of_false (fun h => h _ rfl) nofun
  | some text => exact iff_of_true (fun json hjson => Option.some.inj hjson ▸ True.intro) rfl

/-- A manifest is without `null` if its metadata are and no text is left out. -/
theorem noNullSent_base_iff
    (hlength : ∀ artifact ∈ manifest.artifacts, isSafeLength artifact.byteLength = true) :
    NoNullSent (.object manifest.baseMembers) ↔
      (∀ text ∈ manifest.optionalTexts, text.isSome = true) ∧
        ∀ v ∈ manifest.allMetadata, NoNullSent v := by
  have hplain : ∀ text : Text, NoNullSent (.string text) :=
    fun _ json hjson => Option.some.inj hjson ▸ True.intro
  have hnumber : ∀ n : JsNumber, isSafeLength n = true → NoNullSent (.number (.number n)) := by
    intro n hn json hjson
    cases n with
    | infinite => cases hn
    | zero | finite => exact Option.some.inj hjson ▸ True.intro
  have hartifact : ∀ artifact ∈ manifest.artifacts,
      NoNull (.object (imageMembers artifact.members)) ↔
        NoNullSent artifact.metadata ∧ artifact.sourceUri.isSome = true := by
    intro artifact hartifact
    have hobject : NoNull (.object (imageMembers artifact.members)) ↔
        NoNullSent (.object artifact.members) :=
      ⟨fun h json hjson => Option.some.inj hjson ▸ h, fun h => h _ rfl⟩
    rw [hobject, noNullSent_object]
    simp only [Artifact.members, List.forall_mem_cons, hplain,
      hnumber _ (hlength artifact hartifact), noNullSent_textOrNull, List.not_mem_nil,
      false_implies, implies_true, and_true, true_and]
  have hartifacts : NoNullSent (.array (manifest.artifacts.map fun artifact =>
      .object artifact.members)) ↔ ∀ artifact ∈ manifest.artifacts,
        NoNullSent artifact.metadata ∧ artifact.sourceUri.isSome = true := by
    have harray : ∀ items : List Value, NoNullSent (.array items) ↔
        ∀ item ∈ items, NoNull ((image item).getD .null) := by
      intro items
      rw [← List.forall_mem_map (P := NoNull), ← imageItems_eq, ← noNull_array]
      exact ⟨fun h => h _ rfl, fun h json hjson => Option.some.inj hjson ▸ h⟩
    rw [harray, List.forall_mem_map]
    exact forall₂_congr hartifact
  rw [noNullSent_object, Manifest.optionalTexts, Manifest.allMetadata]
  simp only [Manifest.baseMembers, List.forall_mem_cons, hplain, noNullSent_textOrNull, hartifacts,
    hnumber (.finite ⟨false, 1, 1, by decide, by decide⟩) (by decide), List.not_mem_nil,
    false_implies, implies_true, and_true, true_and, List.forall_mem_map]
  constructor
  · rintro ⟨hartifacts, hcid, huri, hmetadata⟩
    exact ⟨⟨hcid, huri, fun a ha => (hartifacts a ha).2⟩, hmetadata,
      fun a ha => (hartifacts a ha).1⟩
  · rintro ⟨⟨hcid, huri, huris⟩, hmetadata, hall⟩
    exact ⟨fun a ha => ⟨hall a ha, huris a ha⟩, hcid, huri, hmetadata⟩

/-! ### What is verified -/

theorem digestOf_injective : Function.Injective (digestOf host) := fun _ _ h =>
  host.sha256Hex_injective (List.append_cancel_left h)

theorem verify_eq_ok_iff {members : List (Text × JsValue)} {digest : Text} :
    verifyArtifactStorageBundleManifest host members = .ok digest ↔
      declaredDigest members = some (.string digest) ∧ digest =
        digestOf host (Server.stableSerialize host.collator (.object (digestInput members))) := by
  rw [verifyArtifactStorageBundleManifest]
  split
  next declared hdeclared =>
    rw [hdeclared]
    split
    next heq =>
      refine ⟨fun h => ?_, fun h => ?_⟩
      · obtain rfl := Except.ok.inj h
        exact ⟨congrArg (fun d => some (Json.string d)) heq, rfl⟩
      · exact congrArg Except.ok h.2.symm
    next hne =>
      refine iff_of_false nofun fun h => hne ?_
      exact (Json.string.inj (Option.some.inj h.1)).trans h.2
  next hdeclared => exact iff_of_false nofun fun h => hdeclared _ h.1

theorem verify_eq_error_iff {members : List (Text × JsValue)} :
    (∃ e, verifyArtifactStorageBundleManifest host members = .error e) ↔
      ∀ digest, verifyArtifactStorageBundleManifest host members ≠ .ok digest := by
  cases verifyArtifactStorageBundleManifest host members with
  | error e => exact iff_of_true ⟨e, rfl⟩ fun _ => nofun
  | ok digest => exact iff_of_false (fun ⟨_, h⟩ => nomatch h) fun h => h digest rfl

theorem digestInput_append {members : List (Text × JsValue)} {json : JsValue}
    (h : digestKey ∉ members.map Prod.fst) :
    digestInput (members ++ [(digestKey, json)]) = members := by
  have hkept : ∀ member ∈ members, decide (member.1 ≠ digestKey) = true := by
    intro member hmember
    refine decide_eq_true fun heq => h ?_
    exact heq ▸ List.mem_map_of_mem hmember
  rw [digestInput, List.filter_append, List.filter_eq_self.mpr hkept]
  simp

theorem declaredDigest_append {members : List (Text × JsValue)} {json : JsValue}
    (h : digestKey ∉ members.map Prod.fst) :
    declaredDigest (members ++ [(digestKey, json)]) = some json := by
  have hnone : members.find? (fun member => member.1 = digestKey) = none := by
    refine List.find?_eq_none.mpr fun member hmember heq => h ?_
    exact of_decide_eq_true heq ▸ List.mem_map_of_mem hmember
  rw [declaredDigest, List.find?_append, hnone]
  simp

theorem digestKey_notMem_image (manifest : Manifest) :
    digestKey ∉ (imageMembers manifest.baseMembers).map Prod.fst := by
  have hnodup := nodup_manifestKeys manifest
  rw [Manifest.members, List.map_append, List.nodup_append] at hnodup
  exact fun hmem => hnodup.2.2 _ ((imageMembers_sublist _).subset hmem) _
    (List.mem_singleton_self _) rfl

theorem transported_eq (manifest : Manifest) : manifest.transported =
    imageMembers manifest.baseMembers ++ [(digestKey, .string manifest.manifestDigest)] := by
  rw [Manifest.transported, Manifest.members, imageMembers_eq, imageMembers_eq,
    List.filterMap_append]
  rfl

/-- What is in memory is digested, and what has been sent is. -/
theorem digestInput_transported (manifest : Manifest) :
    digestInput manifest.transported = imageMembers manifest.baseMembers := by
  rw [transported_eq, digestInput_append (digestKey_notMem_image manifest)]

theorem declaredDigest_transported (manifest : Manifest) :
    declaredDigest manifest.transported = some (.string manifest.manifestDigest) := by
  rw [transported_eq, declaredDigest_append (digestKey_notMem_image manifest)]

/-- A manifest that has its own digest. -/
def Manifest.Signed (host : Host) (manifest : Manifest) : Prop := manifest.manifestDigest =
  digestOf host (stableSerialize host.collator (.object manifest.baseMembers))

theorem signed_of_build {now : Text} {input : ManifestInput}
    (h : buildArtifactStorageBundleManifest host now input = .ok manifest) :
    manifest.Signed host := by
  obtain ⟨_, _, _, _, _, _, _, _, _, rfl⟩ := build_eq_ok_iff.mp h
  rfl

/-- **A manifest is accepted where it arrives** exactly if its metadata are settled. -/
theorem accepted_iff (hgood : ∀ v ∈ manifest.allMetadata, Good v) (hsigned : manifest.Signed host) :
    verifyArtifactStorageBundleManifest host manifest.transported = .ok manifest.manifestDigest ↔
      ∀ v ∈ manifest.allMetadata, (image v).isSome ∧ Settled host.collator v := by
  rw [verify_eq_ok_iff, digestInput_transported, declaredDigest_transported, ← settled_base_iff,
    ← text_eq_image_iff (good_base hgood), hsigned, digestOf_injective.eq_iff]
  exact and_iff_right rfl

/-- **What has been changed is not accepted**, where there is no `null`. -/
theorem rejected_of_changed (hgood : ∀ v ∈ manifest.allMetadata, Good v)
    (haccepted : verifyArtifactStorageBundleManifest host manifest.transported =
      .ok manifest.manifestDigest) (hnull : NoNullSent (.object manifest.baseMembers))
    {members : List (Text × JsValue)} (hdistinct : (Json.object members).Distinct)
    (hdeclared : declaredDigest members = declaredDigest manifest.transported)
    (hchanged : ¬Same (.object (digestInput members))
      (.object (digestInput manifest.transported))) :
    ∃ e, verifyArtifactStorageBundleManifest host members = .error e := by
  refine verify_eq_error_iff.mpr fun digest hok => hchanged ?_
  obtain ⟨hdigest, htext⟩ := verify_eq_ok_iff.mp hok
  obtain ⟨hdigest', htext'⟩ := verify_eq_ok_iff.mp haccepted
  rw [hdeclared, hdigest'] at hdigest
  obtain rfl := Json.string.inj (Option.some.inj hdigest)
  obtain ⟨hdistinct', hfinite⟩ := good_image (good_base hgood) _ rfl
  obtain ⟨hnodup, hvalues⟩ := distinct_object.mp hdistinct
  have hrest : (Json.object (digestInput members)).Distinct :=
    distinct_object.mpr ⟨hnodup.sublist (List.filter_sublist.map _),
      fun member hmember => hvalues member (List.mem_filter.mp hmember).1⟩
  rw [digestInput_transported] at htext' ⊢
  exact same_of_text hrest hdistinct' hfinite (hnull _ rfl)
    (digestOf_injective (htext.symm.trans htext'))

/-- With a `null` something can be changed. -/
theorem exists_changed (hgood : ∀ v ∈ manifest.allMetadata, Good v)
    (haccepted : verifyArtifactStorageBundleManifest host manifest.transported =
      .ok manifest.manifestDigest) (hnull : ¬NoNullSent (.object manifest.baseMembers)) :
    ∃ members : List (Text × JsValue), (Json.object members).Distinct ∧
      declaredDigest members = declaredDigest manifest.transported ∧
      ¬Same (.object (digestInput members)) (.object (digestInput manifest.transported)) ∧
      verifyArtifactStorageBundleManifest host members = .ok manifest.manifestDigest := by
  have hkeys : (inflatedMembers (imageMembers manifest.baseMembers)).map Prod.fst =
      (imageMembers manifest.baseMembers).map Prod.fst := by
    rw [inflatedMembers_eq, List.map_map]
    rfl
  have hfresh : digestKey ∉ (inflatedMembers (imageMembers manifest.baseMembers)).map Prod.fst :=
    hkeys ▸ digestKey_notMem_image manifest
  obtain ⟨hnodup, hvalues⟩ := distinct_object.mp
    (distinct_inflated (good_image (good_base hgood) _ rfl).1)
  refine ⟨inflatedMembers (imageMembers manifest.baseMembers) ++
    [(digestKey, .string manifest.manifestDigest)], ?_, ?_, ?_, ?_⟩
  · refine distinct_object.mpr ⟨?_, ?_⟩
    · rw [List.map_append]
      exact hnodup.append (List.nodup_singleton _) (List.disjoint_singleton.mpr hfresh)
    · refine List.forall_mem_append.mpr ⟨hvalues, ?_⟩
      exact List.forall_mem_singleton.mpr True.intro
  · rw [declaredDigest_append hfresh, declaredDigest_transported]
  · rw [digestInput_append hfresh, digestInput_transported]
    exact not_same_inflated fun h => hnull fun json hjson => Option.some.inj hjson ▸ h
  · obtain ⟨-, htext⟩ := verify_eq_ok_iff.mp haccepted
    rw [digestInput_transported] at htext
    refine verify_eq_ok_iff.mpr ⟨declaredDigest_append hfresh, ?_⟩
    rw [digestInput_append hfresh, htext]
    exact congrArg _ (text_inflated (.object (imageMembers manifest.baseMembers))).symm

/-! ### In which order the artifacts come -/

/-- **The text of a manifest tells the order of its artifacts.** -/
theorem artifactKeys_of_text {manifest' : Manifest} (hgood : ∀ v ∈ manifest.allMetadata, Good v)
    (hgood' : ∀ v ∈ manifest'.allMetadata, Good v)
    (hsettled : ∀ v ∈ manifest.allMetadata, (image v).isSome ∧ Settled host.collator v)
    (hsettled' : ∀ v ∈ manifest'.allMetadata, (image v).isSome ∧ Settled host.collator v)
    (htext : stableSerialize host.collator (.object manifest.baseMembers) =
      stableSerialize host.collator (.object manifest'.baseMembers)) :
    manifest.artifacts.map Artifact.artifactKey = manifest'.artifacts.map Artifact.artifactKey := by
  have hbase := good_base hgood
  have hbase' := good_base hgood'
  rw [(text_eq_image_iff hbase).mpr (settled_base_iff.mpr hsettled),
    (text_eq_image_iff hbase').mpr (settled_base_iff.mpr hsettled')] at htext
  have hwritten : serverWritten host.collator (.object (imageMembers manifest.baseMembers)) =
      serverWritten host.collator (.object (imageMembers manifest'.baseMembers)) :=
    (serialize_eq_iff JsNumber.text_eq JsNumber.text_eq isQuoted_quoteUnits isQuoted_quoteUnits
      JsNumber.good_write JsNumber.good_write _ _).mp htext
  have hdistinct : ∀ {members : List (Text × Value)}, Good (.object members) →
      ((imageMembers members).map Prod.fst).Nodup := fun h =>
    (distinct_object.mp (good_image h _ rfl).1).1
  have hartifacts := ((serverWritten_object_eq_iff (hdistinct hbase) (hdistinct hbase')).mp
    hwritten).2 (lit "artifacts", .array _)
      (mem_imageMembers.mpr ⟨_, List.mem_cons_self, rfl⟩) (lit "artifacts", .array _)
      (mem_imageMembers.mpr ⟨_, List.mem_cons_self, rfl⟩) rfl
  rw [serverWritten_array, serverWritten_array, Json.array.injEq, imageItems_eq, imageItems_eq,
    List.map_map, List.map_map, List.map_map, List.map_map, map_eq_map_iff_zip] at hartifacts
  refine map_eq_map_iff_zip.mpr ⟨hartifacts.1, fun p hp => ?_⟩
  obtain ⟨hleft, hright⟩ := List.of_mem_zip hp
  have hmetadata : ∀ {manifest : Manifest} {artifact : Artifact},
      (∀ v ∈ manifest.allMetadata, Good v) → artifact ∈ manifest.artifacts →
        Good (.object artifact.members) := fun hgood hartifact =>
    good_artifact (hgood _ (List.mem_cons_of_mem _ (List.mem_map_of_mem hartifact)))
  have hkey := ((serverWritten_object_eq_iff (hdistinct (hmetadata hgood hleft))
    (hdistinct (hmetadata hgood' hright))).mp (hartifacts.2 p hp)).2
      (lit "artifactKey", .string _) (mem_imageMembers.mpr ⟨_, List.mem_cons_self, rfl⟩)
      (lit "artifactKey", .string _) (mem_imageMembers.mpr ⟨_, List.mem_cons_self, rfl⟩) rfl
  exact quoteUnits_injective (Json.string.inj hkey)

end

section

variable {host : Host} {now : Text} {input : ManifestInput} {manifest : Manifest}

theorem map_eq_of_forall₂ {α β γ : Type} {R : α → β → Prop} (f : α → γ) (g : β → γ)
    (hfg : ∀ a b, R a b → g b = f a) {l : List α} {l' : List β} (h : List.Forall₂ R l l') :
    l'.map g = l.map f := by
  induction h with
  | nil => rfl
  | cons hab _ ih => rw [List.map_cons, List.map_cons, hfg _ _ hab, ih]

/-- **What the artifacts of a manifest are** they are by the input, in some order. -/
theorem perm_artifacts {γ : Type} (f : ArtifactInput → γ) (g : Artifact → γ)
    (hfg : ∀ input artifact, normalizeArtifact input = .ok artifact → g artifact = f input)
    (h : buildArtifactStorageBundleManifest host now input = .ok manifest) :
    (manifest.artifacts.map g).Perm (input.artifacts.map f) := by
  obtain ⟨bundleKey, storageRail, normalized, -, -, -, hnormalized, -, -, rfl⟩ :=
    build_eq_ok_iff.mp h
  rw [← map_eq_of_forall₂ f g hfg hnormalized]
  exact (List.mergeSort_perm normalized _).map g

/-- The metadata of a manifest are those of the input. -/
theorem mem_allMetadata (h : buildArtifactStorageBundleManifest host now input = .ok manifest)
    {v : Value} : v ∈ manifest.allMetadata ↔ v ∈ input.allMetadata := by
  have hperm := perm_artifacts (fun artifact => orEmpty artifact.metadata) Artifact.metadata
    (fun _ _ hartifact => (normalizeArtifact_eq_ok hartifact).2.1) h
  have hbundle : manifest.metadata = orEmpty input.metadata := by
    obtain ⟨_, _, _, _, _, _, _, _, _, rfl⟩ := build_eq_ok_iff.mp h
    rfl
  rw [Manifest.allMetadata, ManifestInput.allMetadata, hbundle]
  exact (hperm.cons _).mem_iff

/-- Its texts are trimmed. -/
theorem forall_mem_optionalTexts
    (h : buildArtifactStorageBundleManifest host now input = .ok manifest) :
    (∀ text ∈ manifest.optionalTexts, text.isSome = true) ↔
      ∀ text ∈ input.optionalTexts, (normalizeOptionalText text).isSome = true := by
  have hperm := perm_artifacts (fun artifact => normalizeOptionalText artifact.sourceUri)
    Artifact.sourceUri (fun _ _ hartifact => (normalizeArtifact_eq_ok hartifact).2.2.1) h
  have hsources : (∀ text ∈ manifest.artifacts.map Artifact.sourceUri, text.isSome = true) ↔
      ∀ artifact ∈ input.artifacts, (normalizeOptionalText artifact.sourceUri).isSome = true :=
    ⟨fun hall artifact hartifact => hall _ (hperm.mem_iff.mpr (List.mem_map_of_mem hartifact)),
      fun hall text htext => by
        obtain ⟨artifact, hartifact, rfl⟩ := List.mem_map.mp (hperm.mem_iff.mp htext)
        exact hall artifact hartifact⟩
  have hbundle : manifest.bundleCid = normalizeOptionalText input.bundleCid ∧
      manifest.bundleUri = normalizeOptionalText input.bundleUri := by
    obtain ⟨_, _, _, _, _, _, _, _, _, rfl⟩ := build_eq_ok_iff.mp h
    exact ⟨rfl, rfl⟩
  rw [Manifest.optionalTexts, ManifestInput.optionalTexts, List.forall_mem_cons,
    List.forall_mem_cons, List.forall_mem_cons, List.forall_mem_cons, hbundle.1, hbundle.2,
    hsources, List.forall_mem_map]

theorem isSafeLength_of_build
    (h : buildArtifactStorageBundleManifest host now input = .ok manifest) :
    ∀ artifact ∈ manifest.artifacts, isSafeLength artifact.byteLength = true := by
  have hperm := perm_artifacts (fun _ => true) (fun artifact => isSafeLength artifact.byteLength)
    (fun _ _ hartifact => (normalizeArtifact_eq_ok hartifact).2.2.2) h
  intro artifact hartifact
  obtain ⟨_, -, heq⟩ := List.mem_map.mp (hperm.mem_iff.mp
    (List.mem_map_of_mem (f := fun artifact : Artifact => isSafeLength artifact.byteLength)
      hartifact))
  exact heq.symm

theorem byArtifactKey_trans (a b c : Artifact) (hab : byArtifactKey host a b = true)
    (hbc : byArtifactKey host b c = true) : byArtifactKey host a c = true :=
  collator_trans _ _ _ hab hbc

theorem byArtifactKey_total (a b : Artifact) :
    (byArtifactKey host a b || byArtifactKey host b a) = true :=
  collator_total _ _

/-- The keys of the input are told apart by the collation. -/
def ManifestInput.Apart (host : Host) (input : ManifestInput) : Prop :=
  ∀ a ∈ input.artifacts, ∀ b ∈ input.artifacts,
    host.collator.le (trimmed a.artifactKey) (trimmed b.artifactKey) = true →
      host.collator.le (trimmed b.artifactKey) (trimmed a.artifactKey) = true →
        trimmed a.artifactKey = trimmed b.artifactKey

/-- **The keys of a manifest** are those of the input in order, and no two are the same. -/
theorem artifactKeys_of_build
    (h : buildArtifactStorageBundleManifest host now input = .ok manifest) :
    manifest.artifacts.map Artifact.artifactKey =
        (input.artifacts.map fun artifact => trimmed artifact.artifactKey).mergeSort
          host.collator.le ∧
      (input.artifacts.map fun artifact => trimmed artifact.artifactKey).Nodup := by
  obtain ⟨bundleKey, storageRail, normalized, -, -, -, hnormalized, -, hnodup, rfl⟩ :=
    build_eq_ok_iff.mp h
  have hmap : normalized.map Artifact.artifactKey =
      input.artifacts.map fun artifact => trimmed artifact.artifactKey :=
    map_eq_of_forall₂ (fun artifact => trimmed artifact.artifactKey) Artifact.artifactKey
      (fun _ _ hartifact => (normalizeArtifact_eq_ok hartifact).1) hnormalized
  rw [← hmap]
  exact ⟨List.map_mergeSort fun _ _ _ _ => rfl, hnodup⟩

theorem apart_iff (h : buildArtifactStorageBundleManifest host now input = .ok manifest) :
    input.Apart host ↔ ∀ key ∈ manifest.artifacts.map Artifact.artifactKey,
      ∀ key' ∈ manifest.artifacts.map Artifact.artifactKey,
        host.collator.le key key' = true → host.collator.le key' key = true → key = key' := by
  rw [(artifactKeys_of_build h).1]
  simp only [List.mem_mergeSort, List.forall_mem_map]
  rfl

/-- **In any order the same is built** of artifacts whose keys are told apart. -/
theorem build_of_perm (h : buildArtifactStorageBundleManifest host now input = .ok manifest)
    (hapart : input.Apart host) {artifacts : List ArtifactInput}
    (hperm : artifacts.Perm input.artifacts) :
    buildArtifactStorageBundleManifest host now { input with artifacts := artifacts } =
      .ok manifest := by
  rw [apart_iff h] at hapart
  obtain ⟨bundleKey, storageRail, normalized, hkey, hrail, hsome, hnormalized, hpaths, hnodup,
    rfl⟩ := build_eq_ok_iff.mp h
  obtain ⟨normalized', hnormalized', hperm'⟩ := List.perm_comp_forall₂ hperm hnormalized
  have happart : ∀ a ∈ normalized, ∀ b ∈ normalized, byArtifactKey host a b = true →
      byArtifactKey host b a = true → a = b := by
    intro a ha b hb hab hba
    refine List.inj_on_of_nodup_map hnodup ha hb (hapart _ ?_ _ ?_ hab hba)
    · exact List.mem_map_of_mem (List.mem_mergeSort.mpr ha)
    · exact List.mem_map_of_mem (List.mem_mergeSort.mpr hb)
  have hsorted := (StableSort.forall_perm_mergeSort_eq_iff byArtifactKey_trans byArtifactKey_total
    (List.Nodup.of_map _ hnodup)).mpr happart normalized' hperm'
  refine build_eq_ok_iff.mpr ⟨bundleKey, storageRail, normalized', hkey, hrail, ?_, hnormalized',
    (hperm'.map _).nodup_iff.mpr hpaths, (hperm'.map _).nodup_iff.mpr hnodup, ?_⟩
  · exact fun hnil => hsome (List.Perm.eq_nil (hnil ▸ hperm.symm))
  · rw [hsorted]
    rfl

/-- **Only such artifacts** have the same digest in any order. -/
theorem apart_of_perm (h : buildArtifactStorageBundleManifest host now input = .ok manifest)
    (hgood : ∀ v ∈ input.allMetadata, Good v)
    (hsettled : ∀ v ∈ input.allMetadata, (image v).isSome ∧ Settled host.collator v)
    (hall : ∀ artifacts : List ArtifactInput, artifacts.Perm input.artifacts → ∃ manifest',
      buildArtifactStorageBundleManifest host now { input with artifacts := artifacts } =
        .ok manifest' ∧ manifest'.manifestDigest = manifest.manifestDigest) : input.Apart host := by
  obtain ⟨hkeys, hnodup⟩ := artifactKeys_of_build h
  rw [apart_iff h, hkeys]
  simp only [List.mem_mergeSort]
  refine (StableSort.forall_perm_mergeSort_eq_iff collator_trans collator_total hnodup).mp ?_
  intro keys hperm
  -- The artifacts in the order of these keys.
  have hown : List.Forall₂
      (fun key (artifact : ArtifactInput) => trimmed artifact.artifactKey = key)
      (input.artifacts.map fun artifact => trimmed artifact.artifactKey) input.artifacts :=
    List.forall₂_map_left_iff.mpr (List.forall₂_same.mpr fun _ _ => rfl)
  obtain ⟨artifacts, hsame, hartifacts⟩ := List.perm_comp_forall₂ hperm hown
  obtain ⟨manifest', hbuild, hdigest⟩ := hall artifacts hartifacts
  have hmem : ∀ {v : Value}, v ∈ manifest'.allMetadata → v ∈ input.allMetadata := by
    intro v hv
    have hmetadata := hartifacts.map fun artifact => orEmpty artifact.metadata
    exact (hmetadata.cons (orEmpty input.metadata)).mem_iff.mp ((mem_allMetadata hbuild).mp hv)
  have htext : stableSerialize host.collator (.object manifest'.baseMembers) =
      stableSerialize host.collator (.object manifest.baseMembers) := by
    rw [signed_of_build hbuild, signed_of_build h] at hdigest
    exact digestOf_injective hdigest
  have horder := artifactKeys_of_text (fun v hv => hgood v (hmem hv))
    (fun v hv => hgood v ((mem_allMetadata h).mp hv)) (fun v hv => hsettled v (hmem hv))
    (fun v hv => hsettled v ((mem_allMetadata h).mp hv)) htext
  have hkeys' : artifacts.map (fun artifact => trimmed artifact.artifactKey) = keys :=
    (map_eq_of_forall₂ id _ (fun _ _ heq => heq) hsame).trans (List.map_id _)
  rw [← hkeys', ← (artifactKeys_of_build hbuild).1, horder, hkeys]

/-! ### What a manifest is for -/

/-- **A manifest does what it is for**: it is accepted where it arrives, it does not depend on the
order in which the artifacts come, no artifact comes twice, and it cannot be changed. -/
structure SoundManifest (host : Host) (now : Text) (input : ManifestInput) (manifest : Manifest) :
    Prop where
  accepted :
    verifyArtifactStorageBundleManifest host manifest.transported = .ok manifest.manifestDigest
  anyOrder : ∀ artifacts : List ArtifactInput, artifacts.Perm input.artifacts → ∃ manifest',
    buildArtifactStorageBundleManifest host now { input with artifacts := artifacts } =
      .ok manifest' ∧ manifest'.manifestDigest = manifest.manifestDigest
  keys_nodup : (manifest.artifacts.map Artifact.artifactKey).Nodup
  paths_nodup : (manifest.artifacts.map Artifact.memberPath).Nodup
  changed : ∀ members : List (Text × JsValue), (Json.object members).Distinct →
    declaredDigest members = declaredDigest manifest.transported →
      ¬Same (.object (digestInput members)) (.object (digestInput manifest.transported)) →
        ∃ e, verifyArtifactStorageBundleManifest host members = .error e
  redeclared : ∀ members : List (Text × JsValue),
    digestInput members = digestInput manifest.transported →
      declaredDigest members ≠ declaredDigest manifest.transported →
        ∃ e, verifyArtifactStorageBundleManifest host members = .error e

/-- What has to hold of an input: what is in memory is what is sent, keys are told apart, and there
is no `null`. -/
structure Transportable (host : Host) (input : ManifestInput) : Prop where
  settled : ∀ v ∈ input.allMetadata, (image v).isSome ∧ Settled host.collator v
  apart : input.Apart host
  texts : ∀ text ∈ input.optionalTexts, (normalizeOptionalText text).isSome = true
  noNull : ∀ v ∈ input.allMetadata, NoNullSent v

/-- **A manifest does what it is for** exactly if its input is transportable. -/
theorem sound_iff (hgood : ∀ v ∈ input.allMetadata, Good v)
    (hbuild : buildArtifactStorageBundleManifest host now input = .ok manifest) :
    SoundManifest host now input manifest ↔ Transportable host input := by
  have hgood' : ∀ v ∈ manifest.allMetadata, Good v := fun v hv =>
    hgood v ((mem_allMetadata hbuild).mp hv)
  have haccepted : verifyArtifactStorageBundleManifest host manifest.transported =
      .ok manifest.manifestDigest ↔
        ∀ v ∈ input.allMetadata, (image v).isSome ∧ Settled host.collator v := by
    rw [accepted_iff hgood' (signed_of_build hbuild)]
    simp only [mem_allMetadata hbuild]
  have hnull : NoNullSent (.object manifest.baseMembers) ↔
      (∀ text ∈ input.optionalTexts, (normalizeOptionalText text).isSome = true) ∧
        ∀ v ∈ input.allMetadata, NoNullSent v := by
    rw [noNullSent_base_iff (isSafeLength_of_build hbuild), forall_mem_optionalTexts hbuild]
    simp only [mem_allMetadata hbuild]
  constructor
  · intro hsound
    have hsettled := haccepted.mp hsound.accepted
    have hnone : NoNullSent (.object manifest.baseMembers) := by
      by_contra hnull
      obtain ⟨members, hdistinct, hdeclared, hchanged, hok⟩ :=
        exists_changed hgood' hsound.accepted hnull
      exact verify_eq_error_iff.mp (hsound.changed members hdistinct hdeclared hchanged) _ hok
    exact ⟨hsettled, apart_of_perm hbuild hgood hsettled hsound.anyOrder, (hnull.mp hnone).1,
      (hnull.mp hnone).2⟩
  · rintro ⟨hsettled, hapart, htexts, hnoNull⟩
    have hok := haccepted.mpr hsettled
    refine ⟨hok, fun artifacts hperm => ⟨manifest, build_of_perm hbuild hapart hperm, rfl⟩, ?_, ?_,
      fun members hdistinct hdeclared hchanged => rejected_of_changed hgood' hok
        (hnull.mpr ⟨htexts, hnoNull⟩) hdistinct hdeclared hchanged,
      fun members hsame hdeclared => verify_eq_error_iff.mpr fun digest hverify => hdeclared ?_⟩
    · rw [(artifactKeys_of_build hbuild).1]
      exact (List.mergeSort_perm _ _).nodup_iff.mpr (artifactKeys_of_build hbuild).2
    · obtain ⟨bundleKey, storageRail, normalized, -, -, -, -, hpaths, -, rfl⟩ :=
        build_eq_ok_iff.mp hbuild
      exact ((List.mergeSort_perm normalized _).map _).nodup_iff.mpr hpaths
    · -- The digest is that of the rest, whatever was declared.
      obtain ⟨hdigest, htext⟩ := verify_eq_ok_iff.mp hverify
      obtain ⟨hdigest', htext'⟩ := verify_eq_ok_iff.mp hok
      rw [hdigest, hdigest', htext, htext', hsame]

end

/-! ### A manifest -/

def charHalves (c : Char) : Text :=
  [⟨c.toNat / 65536, by have := toNat_lt c; omega⟩, ⟨c.toNat % 65536, by omega⟩]

/-- The halves of the characters of a text, after one more code unit. -/
def halves (text : String) : Text := slash :: text.toList.flatMap charHalves

theorem halves_injective : Function.Injective halves := by
  have hchars : ∀ {cs cs' : List Char}, cs.flatMap charHalves = cs'.flatMap charHalves →
      cs = cs' := by
    intro cs
    induction cs with
    | nil =>
      intro cs' h
      cases cs' with
      | nil => rfl
      | cons c' cs' => cases h
    | cons c cs ih =>
      intro cs' h
      cases cs' with
      | nil => cases h
      | cons c' cs' =>
        obtain ⟨hhigh, htail⟩ := List.cons.inj h
        obtain ⟨hlow, hrest⟩ := List.cons.inj htail
        have hhigh := congrArg Fin.val hhigh
        have hlow := congrArg Fin.val hlow
        have hc : c.toNat = c'.toNat := by
          rw [← Nat.div_add_mod c.toNat 65536, ← Nat.div_add_mod c'.toNat 65536]
          exact congrArg₂ (fun high low => 65536 * high + low) hhigh hlow
        rw [Char.toNat_inj.mp hc, ih hrest]
  exact fun left right h => String.toList_inj.mp (hchars (List.cons.inj h).2)

theorem length_halves (text : String) : (halves text).length % 2 = 1 := by
  have hchars : ∀ cs : List Char, (cs.flatMap charHalves).length = 2 * cs.length := by
    intro cs
    induction cs with
    | nil => rfl
    | cons c cs ih =>
      have hpair : (charHalves c).length = 2 := rfl
      rw [List.flatMap_cons, List.length_append, ih, List.length_cons, hpair]
      omega
  rw [halves, List.length_cons, hchars]
  omega

/-- The text of the manifest below. -/
def paperText : String :=
  "\x7b\"artifacts\":[\x7b\"artifactKey\":\"appendix\",\"byteLength\":11,\"cid\":\"bafypape" ++
  "r\",\"contentType\":\"text/plain\",\"durabilityClass\":\"A\",\"memberPath\":\"appendix.t" ++
  "xt\",\"metadata\":\x7b\"review\":\x7b\"accepted\":true,\"round\":\"2\"\x7d\x7d,\"sha256" ++
  "\":\"b94d27b9934d3e08a52e52d7da7dabfac484efe37a5380ee9088f7ace2efcde9\",\"sourceUri\":\"" ++
  "ipfs://bafypaper\"\x7d,\x7b\"artifactKey\":\"paper\",\"byteLength\":11,\"cid\":\"bafypap" ++
  "er\",\"contentType\":\"text/plain\",\"durabilityClass\":\"A\",\"memberPath\":\"paper.txt" ++
  "\",\"metadata\":\x7b\x7d,\"sha256\":\"b94d27b9934d3e08a52e52d7da7dabfac484efe37a5380ee90" ++
  "88f7ace2efcde9\",\"sourceUri\":\"ipfs://bafypaper\"\x7d],\"bundleCid\":\"bafybundle\",\"" ++
  "bundleKey\":\"bundle\",\"bundleUri\":\"ipfs://bafybundle\",\"generatedAt\":\"2026-05-16T" ++
  "12:00:00.000Z\",\"kind\":\"scientific.artifact-storage-bundle\",\"metadata\":\x7b\"revie" ++
  "w\":\x7b\"accepted\":true,\"round\":\"2\"\x7d\x7d,\"storageRail\":\"filecoin\",\"version" ++
  "\":1\x7d"

def paperDigest : Text := lit "3663bdb2366f85102f39f97f26f349bef70a79940c5e2bafe053b2db6cd9737b"

/-- A digest that is known, and something else for any other text. -/
def paperSha256 (text : String) : Text := if text = paperText then paperDigest else halves text

theorem paperSha256_injective : Function.Injective paperSha256 := by
  have hne : ∀ text, paperDigest ≠ halves text := by
    intro text heq
    have hodd := length_halves text
    rw [← heq] at hodd
    exact absurd hodd (by decide)
  intro left right h
  rw [paperSha256, paperSha256] at h
  by_cases hleft : left = paperText <;> by_cases hright : right = paperText
  · rw [hleft, hright]
  · rw [if_pos hleft, if_neg hright] at h
    exact absurd h (hne right)
  · rw [if_neg hleft, if_pos hright] at h
    exact absurd h.symm (hne left)
  · rw [if_neg hleft, if_neg hright] at h
    exact halves_injective h

def paperHost : Host where
  collator := accents
  sha256Hex := paperSha256
  sha256Hex_injective := paperSha256_injective

def paperLength : JsNumber := .finite ⟨false, 11, 2, by decide, by decide⟩

def paperArtifact : ArtifactInput where
  artifactKey := lit "paper"
  byteLength := some paperLength
  cid := lit "bafypaper"
  contentType := lit "text/plain"
  durabilityClass := .A
  memberPath := lit "paper.txt"
  metadata := none
  sha256 := lit "b94d27b9934d3e08a52e52d7da7dabfac484efe37a5380ee9088f7ace2efcde9"
  sourceUri := some (lit "ipfs://bafypaper")

/-- `{ review: { accepted: true, round: "2" } }` -/
def reviewNote : Value := .object
  [(lit "review", .object
    [(lit "accepted", .bool true), (lit "round", .string (lit "2"))])]

def appendixArtifact : ArtifactInput :=
  { paperArtifact with
    artifactKey := lit "appendix", memberPath := lit "appendix.txt", metadata := some reviewNote }

def paperInput (metadata : Option Value) : ManifestInput where
  artifacts := [paperArtifact, appendixArtifact]
  bundleCid := some (lit "bafybundle")
  bundleKey := lit "bundle"
  bundleUri := some (lit "ipfs://bafybundle")
  generatedAt := some (lit "2026-05-16T12:00:00.000Z")
  metadata := metadata
  storageRail := lit "filecoin"

def paper : Artifact where
  artifactKey := lit "paper"
  byteLength := paperLength
  cid := lit "bafypaper"
  contentType := lit "text/plain"
  durabilityClass := .A
  memberPath := lit "paper.txt"
  metadata := .object []
  sha256 := lit "b94d27b9934d3e08a52e52d7da7dabfac484efe37a5380ee9088f7ace2efcde9"
  sourceUri := some (lit "ipfs://bafypaper")

def appendix : Artifact :=
  { paper with
    artifactKey := lit "appendix", memberPath := lit "appendix.txt", metadata := reviewNote }

def paperManifest (metadata : Option Value) : Manifest :=
  manifestOf paperHost [] (paperInput metadata) (lit "bundle") (lit "filecoin")
    ([paper, appendix].mergeSort (byArtifactKey paperHost))

theorem build_paper (metadata : Option Value) :
    buildArtifactStorageBundleManifest paperHost [] (paperInput metadata) =
      .ok (paperManifest metadata) :=
  build_eq_ok_iff.mpr ⟨_, _, [paper, appendix], rfl, rfl, List.cons_ne_nil _ _,
    .cons rfl (.cons rfl .nil), by decide, by decide, rfl⟩

theorem good_nil : Good (.object []) := .of_object List.nodup_nil fun _ h =>
  absurd h List.not_mem_nil

theorem good_review : Good reviewNote := by
  have hmembers : Good (.object [(lit "accepted", .bool true), (lit "round", .string (lit "2"))]) :=
    .of_object (by decide) (List.forall_mem_cons.mpr ⟨⟨True.intro, True.intro⟩,
      List.forall_mem_singleton.mpr ⟨True.intro, True.intro⟩⟩)
  exact .of_object (List.nodup_singleton _) (List.forall_mem_singleton.mpr hmembers)

/-- What is said of the metadata, of the bundle and of its two artifacts. -/
theorem forall_mem_paperMetadata {P : Value → Prop} (hreview : P reviewNote)
    (hnil : P (.object [])) : ∀ v ∈ (paperInput (some reviewNote)).allMetadata, P v :=
  List.forall_mem_cons.mpr ⟨hreview, List.forall_mem_cons.mpr ⟨hnil,
    List.forall_mem_singleton.mpr hreview⟩⟩

/-- Two artifacts, and an object in an object. -/
theorem paper_sound :
    SoundManifest paperHost [] (paperInput (some reviewNote))
      (paperManifest (some reviewNote)) := by
  refine (sound_iff (forall_mem_paperMetadata good_review good_nil)
    (build_paper (some reviewNote))).mpr ⟨?_, ?_, by decide, ?_⟩
  · refine forall_mem_paperMetadata ⟨rfl, ?_⟩
      ⟨rfl, settled_object.mpr fun _ h => absurd h List.not_mem_nil⟩
    refine settled_object.mpr (List.forall_mem_singleton.mpr ⟨rfl, settled_object.mpr ?_⟩)
    exact List.forall_mem_cons.mpr ⟨⟨rfl, True.intro⟩,
      List.forall_mem_singleton.mpr ⟨rfl, True.intro⟩⟩
  · unfold ManifestInput.Apart
    decide
  · refine forall_mem_paperMetadata ?_ (noNullSent_object.mpr fun _ h => absurd h List.not_mem_nil)
    refine noNullSent_object.mpr (List.forall_mem_singleton.mpr (noNullSent_object.mpr ?_))
    exact List.forall_mem_cons.mpr ⟨fun json hjson => Option.some.inj hjson ▸ True.intro,
      List.forall_mem_singleton.mpr fun json hjson => Option.some.inj hjson ▸ True.intro⟩

/-- `{ note: undefined }` -/
def undefinedNote : Value := .object [(lit "note", .number .absent)]

/-- **With `undefined` in its metadata a manifest is not accepted** where it arrives. -/
theorem undefined_not_sound : ¬∀ (host : Host) (now : Text) (input : ManifestInput)
    (manifest : Manifest), (∀ v ∈ input.allMetadata, Good v) →
      buildArtifactStorageBundleManifest host now input = .ok manifest →
        SoundManifest host now input manifest := by
  intro h
  have hnote : Good undefinedNote := .of_object (List.nodup_singleton _)
    (List.forall_mem_singleton.mpr ⟨True.intro, True.intro⟩)
  have hgood : ∀ v ∈ (paperInput (some undefinedNote)).allMetadata, Good v :=
    List.forall_mem_cons.mpr ⟨hnote, List.forall_mem_cons.mpr ⟨good_nil,
      List.forall_mem_singleton.mpr good_review⟩⟩
  have hbuild := build_paper (some undefinedNote)
  have haccepted := (h paperHost [] (paperInput (some undefinedNote)) _ hgood hbuild).accepted
  rw [accepted_iff (fun v hv => hgood v ((mem_allMetadata hbuild).mp hv))
    (signed_of_build hbuild)] at haccepted
  have hsettled := (haccepted undefinedNote List.mem_cons_self).2
  exact absurd (settled_object.mp hsettled _ List.mem_cons_self).1 Bool.false_ne_true

end ScientificProtocol.Artifacts
