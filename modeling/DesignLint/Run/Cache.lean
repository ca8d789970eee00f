import DesignLint.Config.Basic
import DesignLint.Json.Reader
import DesignLint.Json.Writer
import DesignLint.Report.LintReport
import DesignLint.Run.Policy
import DesignLint.Run.Scan

/-! Kept results. The result of a run is kept with digests of the files it is about and a key made from the
settings. It is used again only if the key and all digests are the same. -/
namespace DesignLint

/-- A kept result and what it was made from. -/
structure CacheEntry where
  key : String
  digests : Named String
  report : LintReport
deriving DecidableEq

/-- Where results are kept. -/
structure ResultCache where
  directory : String
  key : String
  digests : Named String

/-- Why kept results are of no use. -/
inductive CacheFault where
  | file (path : String) (fault : PathFault)
  | policy (error : PolicyError)
  | unreadable (fault : PathFault)
  | malformed
  | directory (fault : PathFault)
  | temporary (fault : PathFault)
  | rename (source target : String) (error : FileError)

/-- The wording of the fault. -/
def CacheFault.message : CacheFault → String
  | file path fault => "cache disabled: " ++ path ++ ": " ++ fault.message
  | policy error => "cache disabled: policy fingerprint: " ++ error.message
  | unreadable fault => "cache load failed: read result cache: " ++ fault.message
  | malformed => "cache load failed: parse result cache: the text is malformed"
  | directory fault => "cache save failed: write result cache: cache dir: " ++ fault.message
  | temporary fault => "cache save failed: write result cache: temp cache file: " ++ fault.message
  | rename source target error =>
    "cache save failed: write result cache: rename cache file: rename " ++ source ++ " " ++ target ++ ": "
      ++ error.message

namespace CacheEntry

/-- The version of the format. -/
def version : Int := 1

/-- The entry as an object. -/
def toJson (e : CacheEntry) : Json :=
  .object [("version", .ofInt version), ("key", .ofString e.key),
    ("files", .object (e.digests.map fun f => (f.1, .ofString f.2))), ("result", e.report.toJson)]

/-- The entry as it is kept. -/
def written (e : CacheEntry) : Bytes := Bytes.ofString e.toJson.pretty

/-- An entry and the version of its format. -/
def fill : Fill (Int × CacheEntry) := .record fun members => do
  let found ← Fill.field "version" .integer members
  let key ← Fill.field "key" .text members
  let digests ← Fill.field "files" (.named .text) members
  let report ← Fill.field "result" .report members
  return (found, ⟨key, digests, report⟩)

/-- Reads an entry; one of another version is as good as none. -/
def ofText (text : Bytes) : Except CacheFault (Option CacheEntry) :=
  match (Json.parse? text).bind fun j => fill [j] with
  | none => .error .malformed
  | some (found, entry) => .ok (if found = version then some entry else none)

/-- The files that are new or have changed since an entry was made. -/
def changedFiles (e : CacheEntry) (digests : Named String) : List String :=
  (digests.filter fun f => Named.get? e.digests f.1 != some f.2).map Prod.fst

end CacheEntry

namespace ResultCache

/-- The directory of kept results: below the directory that is analysed, unless it is absolute. -/
def directoryOf (w : Workspace) (c : Config) (root : String) : String :=
  let base := if w.isFile root then Path.directory root else root
  let wanted := c.analysis.cache.directory
  let directory := if wanted = "" then Config.defaultCacheDirectory else wanted
  if Path.isAbsolute directory then directory else Path.join [base, directory]

/-- The settings of a run: the version of the analysis, the configuration, the third-party files and the version of
the policy. -/
def settings (c : Config) (files : List ScannedFile) (policyVersion : String) : Json :=
  let thirdParty := (files.filter ScannedFile.thirdParty).map fun f => (f.path, Json.bool true)
  .object [("analyzer", .ofString "vhdl-sema/1"), ("config", c.toJson),
    ("third_party", .object (Named.ofList thirdParty)), ("policy_version", .ofString policyVersion)]

/-- The key of a run: a digest of its settings. -/
def keyOf (c : Config) (files : List ScannedFile) (policyVersion : String) : String :=
  Sha256.digest (Bytes.ofString (settings c files policyVersion).compact)

/-- The digest of a file. -/
def digestOf (w : Workspace) (f : ScannedFile) : Except CacheFault (String × String) :=
  match w.read f.path with
  | .ok content => .ok (f.path, Sha256.digest content)
  | .error fault => .error (.file f.path fault)

/-- The kept results for a run. -/
def prepare (w : Workspace) (c : Config) (policyDirectory root : String) (files : List ScannedFile) :
    Except CacheFault ResultCache := do
  let digests ← files.mapM (digestOf w)
  match Policy.version w policyDirectory with
  | .error e => .error (.policy e)
  | .ok version =>
    return ⟨directoryOf w c root, keyOf c files version, Named.ofList digests⟩

/-- The file that results are kept in. -/
def path (cache : ResultCache) : String := Path.join [cache.directory, "result_cache.json"]

/-- The kept result, if there is one. -/
def load (w : Workspace) (cache : ResultCache) : Except CacheFault (Option CacheEntry) :=
  match w.read cache.path with
  | .ok text => CacheEntry.ofText text
  | .error ⟨_, _, .notFound⟩ => .ok none
  | .error fault => .error (.unreadable fault)

/-- Whether a kept result was made from the same files and settings. -/
def accepts (cache : ResultCache) (e : CacheEntry) : Bool := e.key == cache.key && e.digests == cache.digests

/-- Writes a file of a directory that need not exist. It is written under another name first and then renamed. -/
def replaceIn (w : Workspace) (directory path : String) (content : Bytes) : Workspace × Option CacheFault :=
  let temporary := directory ++ "/.tmp-0.json"
  match w.makeDirectories directory with
  | (w, some fault) => (w, some (.directory fault))
  | (w, none) =>
    match w.write temporary content with
    | .error fault => (w, some (.temporary fault))
    | .ok _ =>
      match w.write path content with
      | .ok w => (w, none)
      | .error fault =>
        let error := if fault.error = .isDirectory then .alreadyThere else fault.error
        (w, some (.rename temporary path error))

/-- Keeps a result. -/
def save (w : Workspace) (cache : ResultCache) (report : LintReport) : Workspace × Option CacheFault :=
  replaceIn w (Path.directory cache.path) cache.path (CacheEntry.written ⟨cache.key, cache.digests, report⟩)

/-- Forgets what is kept. -/
def clear (w : Workspace) (c : Config) (root : String) : Except PathFault Workspace :=
  let cache : ResultCache := ⟨directoryOf w c root, "", []⟩
  match w.remove cache.path with
  | .ok w => .ok w
  | .error fault => if fault.error = .notFound then .ok w else .error fault

end ResultCache
end DesignLint
