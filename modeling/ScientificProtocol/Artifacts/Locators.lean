import ScientificProtocol.Artifacts.Persistence

/-!
# What a locator makes a reader open

The readers of `src/shared/persisted-artifacts.ts` look at how a locator begins: inline JSON is in
the locator itself, `ipfs://`, `s3://` and `gs://` go to a storage client that the node is
configured with, `http://` and `https://` go to `fetch` as they are, and *any other text* is a path
of the file system. None of this is checked the way `resolveSafeOutboundTarget` of
`src/shared/outbound-request.ts` checks where other requests go.

So a locator is harmless exactly if it begins in one of the first ways, or is a web address that
`fetch` does not take, or a path that the file system does not take
(`ScientificProtocol.Artifacts.guarded_iff`).
-/

namespace ScientificProtocol.Artifacts

/-- What a reader does with a locator. -/
inductive Access where
  /-- The bytes are in the locator. -/
  | inline (bytes : Bytes)
  /-- A configured storage backend is asked. -/
  | backend (client : StorageClient)
  /-- A request is made, to where has been checked by `resolveSafeOutboundTarget` or not. -/
  | outbound (url : String) (isChecked : Bool)
  /-- A path of the local file system is opened. -/
  | file (path : String)
  | refused (error : String)
  deriving DecidableEq

/-- **No file is opened, and no request made that has not been checked.** -/
def Access.Guarded : Access → Prop
  | .outbound _ isChecked => isChecked = true
  | .file _ => False
  | _ => True

/-- What the runtime makes of texts. -/
structure Runtime where
  /-- `Buffer.from(text, "base64")`. -/
  decodeBase64 : String → Bytes
  /-- `parseIpfsUrl` finds a content identifier. -/
  hasIpfsCid : String → Bool
  /-- `fetch` takes the text for an address it can connect to. -/
  fetchTakes : String → Bool

/-- `text.startsWith(start)`. -/
def startsWith (start text : String) : Bool := start.toList.isPrefixOf text.toList

/-! ### Schemes -/

def isHttpUrl (value : String) : Bool := startsWith "http://" value || startsWith "https://" value

def isInlineJsonUrl (value : String) : Bool := startsWith "data:application/json;base64," value

def isS3Url (value : String) : Bool := startsWith "s3://" value

def isGcsUrl (value : String) : Bool := startsWith "gs://" value

def isIpfsUrl (value : String) : Bool := startsWith "ipfs://" value

/-- `MAX_INLINE_JSON_ARTIFACT_BYTES`. -/
def maxInlineJsonArtifactBytes : ℕ := 64 * 1024

def readInlineJsonUrl (R : Runtime) (value : String) : Access :=
  let bytes := R.decodeBase64
    (String.ofList (value.toList.drop "data:application/json;base64,".length))
  if maxInlineJsonArtifactBytes < bytes.length then
    .refused "inline JSON artifact exceeds maximum size"
  else .inline bytes

/-- A line terminator, which `.` does not match. -/
def isLineTerminator (c : Char) : Bool := c.toNat ∈ [0x0A, 0x0D, 0x2028, 0x2029]

/-- `value.match(/^s3:\/\/([^/]+)\/(.+)$/)`, and likewise for `gs`, behind the two slashes. -/
def isBucketAndKey (rest : List Char) : Bool :=
  let bucket := rest.takeWhile (· ≠ '/')
  let key := (rest.dropWhile (· ≠ '/')).drop 1
  !bucket.isEmpty && !key.isEmpty && !key.any isLineTerminator

/-! ### Readers -/

section

variable (R : Runtime) (options : ArtifactPersistenceOptions)

/-- Asking a node of IPFS. -/
def readIpfs (client : StorageClient) (value : String) : Access :=
  if R.hasIpfsCid value then .backend client else .refused "invalid ipfs path"

def readBucket (error value : String) : Access :=
  if isBucketAndKey (value.toList.drop 5) then .backend .locator else .refused error

def readHttp (value : String) : Access :=
  if R.fetchTakes value then .outbound value false else .refused "fetch failed"

/-- A path with a null character is refused before the file system is asked. -/
def readFile (path : String) : Access :=
  if '\x00' ∈ path.toList then .refused "ERR_INVALID_ARG_VALUE" else .file path

def openPersistedArtifactReadStream (storagePath : String) : Access :=
  if isInlineJsonUrl storagePath then readInlineJsonUrl R storagePath
  else if isHttpUrl storagePath then readHttp R storagePath
  else if isS3Url storagePath then readBucket "invalid s3 artifact path" storagePath
  else if isIpfsUrl storagePath then readIpfs R (.ipfs options.ipfsNode) storagePath
  else if isGcsUrl storagePath then readBucket "invalid gcs path" storagePath
  else readFile storagePath

def openPersistedArtifactReplicaReadStream (locator replicaKey : String) : Access :=
  if isIpfsUrl locator then readIpfs R (ipfsClientFor options replicaKey) locator
  else openPersistedArtifactReadStream R options locator

def readPersistedArtifactBytes (storagePath : String) : Access :=
  if isInlineJsonUrl storagePath then readInlineJsonUrl R storagePath
  else if isIpfsUrl storagePath then readIpfs R (.ipfs options.ipfsNode) storagePath
  else if isHttpUrl storagePath then readHttp R storagePath
  else if isGcsUrl storagePath then readBucket "invalid gcs path" storagePath
  else if isS3Url storagePath then readBucket "invalid s3 artifact path" storagePath
  else readFile storagePath

def readPersistedArtifactReplicaBytes (locator replicaKey : String) : Access :=
  if isIpfsUrl locator then readIpfs R (ipfsClientFor options replicaKey) locator
  else readPersistedArtifactBytes R options locator

end

/-! ### Which locators are harmless -/

/-- The beginnings of a locator that the readers look for. -/
def schemes : List String :=
  ["data:application/json;base64,", "ipfs://", "s3://", "gs://", "http://", "https://"]

/-- **A locator that is harmless to read.** -/
def Harmless (R : Runtime) (locator : String) : Prop :=
  isInlineJsonUrl locator = true ∨ isIpfsUrl locator = true ∨ isS3Url locator = true ∨
    isGcsUrl locator = true ∨ (isHttpUrl locator = true ∧ R.fetchTakes locator = false) ∨
    ((∀ scheme ∈ schemes, startsWith scheme locator = false) ∧ '\x00' ∈ locator.toList)

section

variable {R : Runtime} {options : ArtifactPersistenceOptions}

/-- Two different beginnings of one text. -/
theorem startsWith_exclusive {start start' text : String} (h : startsWith start text = true)
    (hne : start.toList.take 3 ≠ start'.toList.take 3) (hlong : 3 ≤ start.toList.length)
    (hlong' : 3 ≤ start'.toList.length) : startsWith start' text = false := by
  refine Bool.eq_false_iff.mpr fun h' => hne ?_
  obtain ⟨rest, hrest⟩ := List.isPrefixOf_iff_prefix.mp h
  obtain ⟨rest', hrest'⟩ := List.isPrefixOf_iff_prefix.mp h'
  calc start.toList.take 3 = (start.toList ++ rest).take 3 :=
        (List.take_append_of_le_length hlong).symm
    _ = (start'.toList ++ rest').take 3 := by rw [hrest, hrest']
    _ = start'.toList.take 3 := List.take_append_of_le_length hlong'

/-- No text with one of the other beginnings is a web address. -/
theorem isHttpUrl_eq_false {start text : String} (h : startsWith start text = true)
    (hne : start.toList.take 3 ≠ "http://".toList.take 3) (hlong : 3 ≤ start.toList.length) :
    isHttpUrl text = false := by
  have hhttp : startsWith "http://" text = false :=
    startsWith_exclusive h hne hlong (by decide)
  have hsame : "https://".toList.take 3 = "http://".toList.take 3 := by decide
  have hhttps : startsWith "https://" text = false :=
    startsWith_exclusive h (by rwa [hsame]) hlong (by decide)
  rw [isHttpUrl, hhttp, hhttps]
  rfl

theorem readInlineJsonUrl_guarded (value : String) : (readInlineJsonUrl R value).Guarded := by
  simp only [readInlineJsonUrl]
  split
  · trivial
  · trivial

theorem readIpfs_guarded (client : StorageClient) (value : String) :
    (readIpfs R client value).Guarded := by
  rw [readIpfs]
  split
  · trivial
  · trivial

theorem readBucket_guarded (error value : String) : (readBucket error value).Guarded := by
  rw [readBucket]
  split
  · trivial
  · trivial

theorem readHttp_guarded_iff (value : String) :
    (readHttp R value).Guarded ↔ R.fetchTakes value = false := by
  rw [readHttp]
  cases R.fetchTakes value with
  | true => simp [Access.Guarded]
  | false => simp [Access.Guarded]

theorem readFile_guarded_iff (path : String) :
    (readFile path).Guarded ↔ '\x00' ∈ path.toList := by
  rw [readFile]
  split
  next h => exact iff_of_true trivial h
  next h => exact iff_of_false id h

/-- A locator is harmless if it has one of the beginnings that go to no web address. -/
theorem Harmless.of_backend {locator : String}
    (h : isInlineJsonUrl locator = true ∨ isIpfsUrl locator = true ∨ isS3Url locator = true ∨
      isGcsUrl locator = true) : Harmless R locator := by
  rcases h with h | h | h | h
  · exact .inl h
  · exact .inr (.inl h)
  · exact .inr (.inr (.inl h))
  · exact .inr (.inr (.inr (.inl h)))

/-- Of the web addresses, those are harmless that `fetch` does not take. -/
theorem harmless_http_iff {locator : String} (hhttp : isHttpUrl locator = true) :
    Harmless R locator ↔ R.fetchTakes locator = false := by
  have hnot {start : String} (hne : start.toList.take 3 ≠ "http://".toList.take 3)
      (hlong : 3 ≤ start.toList.length) : startsWith start locator = false := by
    refine Bool.eq_false_iff.mpr fun h => ?_
    rw [isHttpUrl_eq_false h hne hlong] at hhttp
    exact Bool.false_ne_true hhttp
  refine ⟨?_, fun h => .inr (.inr (.inr (.inr (.inl ⟨hhttp, h⟩))))⟩
  rintro (h | h | h | h | h | h)
  · rw [isInlineJsonUrl, hnot (by decide) (by decide)] at h
    cases h
  · rw [isIpfsUrl, hnot (by decide) (by decide)] at h
    cases h
  · rw [isS3Url, hnot (by decide) (by decide)] at h
    cases h
  · rw [isGcsUrl, hnot (by decide) (by decide)] at h
    cases h
  · exact h.2
  · rw [isHttpUrl, h.1 _ (by simp [schemes]), h.1 _ (by simp [schemes])] at hhttp
    cases hhttp

/-- Of the texts with no beginning, those are harmless that are no path. -/
theorem harmless_file_iff {locator : String}
    (hnone : ∀ scheme ∈ schemes, startsWith scheme locator = false) :
    Harmless R locator ↔ '\x00' ∈ locator.toList := by
  simp only [schemes, List.forall_mem_cons] at hnone
  obtain ⟨hinline, hipfs, hs3, hgcs, hhttp, hhttps, -⟩ := hnone
  simp [Harmless, isInlineJsonUrl, isIpfsUrl, isS3Url, isGcsUrl, isHttpUrl, schemes, hinline, hipfs,
    hs3, hgcs, hhttp, hhttps]

/-- **What `openPersistedArtifactReadStream` opens.** -/
theorem openPersistedArtifactReadStream_guarded_iff (locator : String) :
    (openPersistedArtifactReadStream R options locator).Guarded ↔ Harmless R locator := by
  rw [openPersistedArtifactReadStream]
  split_ifs with hinline hhttp hs3 hipfs hgcs
  · exact iff_of_true (readInlineJsonUrl_guarded locator) (.of_backend (.inl hinline))
  · exact (readHttp_guarded_iff locator).trans (harmless_http_iff hhttp).symm
  · exact iff_of_true (readBucket_guarded _ locator) (.of_backend (.inr (.inr (.inl hs3))))
  · exact iff_of_true (readIpfs_guarded _ locator) (.of_backend (.inr (.inl hipfs)))
  · exact iff_of_true (readBucket_guarded _ locator) (.of_backend (.inr (.inr (.inr hgcs))))
  · refine (readFile_guarded_iff locator).trans (harmless_file_iff ?_).symm
    simp_all [schemes, isInlineJsonUrl, isIpfsUrl, isS3Url, isGcsUrl, isHttpUrl]

/-- **What `readPersistedArtifactBytes` opens.** -/
theorem readPersistedArtifactBytes_guarded_iff (locator : String) :
    (readPersistedArtifactBytes R options locator).Guarded ↔ Harmless R locator := by
  rw [readPersistedArtifactBytes]
  split_ifs with hinline hipfs hhttp hgcs hs3
  · exact iff_of_true (readInlineJsonUrl_guarded locator) (.of_backend (.inl hinline))
  · exact iff_of_true (readIpfs_guarded _ locator) (.of_backend (.inr (.inl hipfs)))
  · exact (readHttp_guarded_iff locator).trans (harmless_http_iff hhttp).symm
  · exact iff_of_true (readBucket_guarded _ locator) (.of_backend (.inr (.inr (.inr hgcs))))
  · exact iff_of_true (readBucket_guarded _ locator) (.of_backend (.inr (.inr (.inl hs3))))
  · refine (readFile_guarded_iff locator).trans (harmless_file_iff ?_).symm
    simp_all [schemes, isInlineJsonUrl, isIpfsUrl, isS3Url, isGcsUrl, isHttpUrl]

end

/-- **A replica is read without harm, by either of its readers, exactly if its locator is
harmless**, whatever its key is and however the node is configured. -/
theorem guarded_iff (R : Runtime) (options : ArtifactPersistenceOptions)
    (locator replicaKey : String) :
    ((openPersistedArtifactReplicaReadStream R options locator replicaKey).Guarded ↔
        Harmless R locator) ∧
      ((readPersistedArtifactReplicaBytes R options locator replicaKey).Guarded ↔
        Harmless R locator) := by
  rw [openPersistedArtifactReplicaReadStream, readPersistedArtifactReplicaBytes]
  by_cases hipfs : isIpfsUrl locator
  · rw [if_pos hipfs, if_pos hipfs]
    have hboth : (readIpfs R (ipfsClientFor options replicaKey) locator).Guarded ↔
        Harmless R locator :=
      iff_of_true (readIpfs_guarded _ locator) (.of_backend (.inr (.inl hipfs)))
    exact ⟨hboth, hboth⟩
  · rw [if_neg hipfs, if_neg hipfs]
    exact ⟨openPersistedArtifactReadStream_guarded_iff locator,
      readPersistedArtifactBytes_guarded_iff locator⟩

/-- A runtime whose `fetch` takes all web addresses. -/
def plainRuntime : Runtime where
  decodeBase64 := fun text => text.toUTF8.toList
  hasIpfsCid := fun text => text.toList.length > 7
  fetchTakes := isHttpUrl

/-- **A file of the node and a port of the node itself** are opened for whoever puts them into a
replica. -/
theorem unguarded :
    let options := withOneTarget .s3
    openPersistedArtifactReplicaReadStream plainRuntime options "/proc/self/environ" "ipfs-1" =
      .file "/proc/self/environ" ∧
    openPersistedArtifactReplicaReadStream plainRuntime options "http://127.0.0.1:5432/" "ipfs-1" =
      .outbound "http://127.0.0.1:5432/" false ∧
    ¬ (openPersistedArtifactReplicaReadStream plainRuntime options "/proc/self/environ"
      "ipfs-1").Guarded ∧
    ¬ (readPersistedArtifactReplicaBytes plainRuntime options "http://127.0.0.1:5432/"
      "ipfs-1").Guarded := by
  have hfile : openPersistedArtifactReplicaReadStream plainRuntime (withOneTarget .s3)
      "/proc/self/environ" "ipfs-1" = .file "/proc/self/environ" := by decide
  have hport : openPersistedArtifactReplicaReadStream plainRuntime (withOneTarget .s3)
      "http://127.0.0.1:5432/" "ipfs-1" = .outbound "http://127.0.0.1:5432/" false := by
    decide
  have hbytes : readPersistedArtifactReplicaBytes plainRuntime (withOneTarget .s3)
      "http://127.0.0.1:5432/" "ipfs-1" = .outbound "http://127.0.0.1:5432/" false := by
    decide
  refine ⟨hfile, hport, ?_, ?_⟩
  · rw [hfile]
    exact id
  · rw [hbytes]
    exact Bool.false_ne_true

end ScientificProtocol.Artifacts
