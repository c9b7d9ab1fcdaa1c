import Mathlib
import Boron.Lib.Sys
import Boron.Lib.Rows

namespace Boron.PortableArchive
open Checks

abbrev Content := List UInt8

/-- A path below a directory, part by part. -/
abbrev Path := List String

/-- An extracted archive: extraction refuses links and special files. -/
structure Tree where
  files : List (Path × Content)
  dirs : List Path
  distinct : (files.map Prod.fst ++ dirs).Nodup
  rooted : ∀ path ∈ files.map Prod.fst ++ dirs, path ≠ [] ∧ (path.dropLast = [] ∨ path.dropLast ∈ dirs)

def Tree.file (tree : Tree) (path : Path) : Option Content := (Rows.byKey Prod.fst tree.files path).map Prod.snd

/-- `size_bytes` as `json.loads` gives it: a number, a text with what `int` makes
of it, or something else. -/
inductive SizeField
  | number (value : Rat)
  | text (parsed : Option Int)
  | other
  deriving DecidableEq

/-- `int(value)` -/
def SizeField.declared : SizeField → Option Int
  | .number value => some (value.num.tdiv value.den)
  | .text parsed => parsed
  | .other => none

def SizeField.listed : SizeField → Option Rat
  | .number value => some value
  | .text parsed => parsed.map fun value => (value : Rat)
  | .other => none

/-- An entry of `components`; a checksum that is no text is `none`. -/
structure Component where
  path : String
  size : SizeField
  sha256 : Option String
  deriving DecidableEq

structure Manifest where
  format : String
  formatVersion : Int
  username : String
  components : Option (List (Option Component))
  deriving DecidableEq

/-- What validation takes from elsewhere: the JSON parser, the check of a user
name, SHA-256 and the walk through a nested tar. -/
structure Site where
  loads : Content → Option Manifest
  validateUsername : String → Except String String
  sha256 : Content → String
  validateInnerTar : Content → Except String Nat
  maxExtractedBytes : Nat

/-- `Path(text)`: empty parts and single dots are dropped. -/
def purePath (text : String) : Path :=
  ((text.toList.splitOn '/').map String.ofList).filter fun part => part ≠ "" ∧ part ≠ "."

def isAbsolute (text : String) : Bool := text.toList.head? = some '/'

/-- `path.as_posix()` -/
def posix (path : Path) : String := "/".intercalate path

def archiveRoot (tree : Tree) : Except String Path :=
  if (tree.file ["manifest.json"]).isSome then .ok []
  else match tree.files.filter (fun file => file.1.length = 1), tree.dirs.filter fun path => path.length = 1 with
    | [], [child] =>
      if (tree.file (child ++ ["manifest.json"])).isSome then .ok child
      else .error "Archive must contain one account directory with manifest.json"
    | _, _ => .error "Archive must contain one account directory with manifest.json"

def isChecksum (checksum : String) : Bool :=
  checksum.length = 64 && checksum.toLower.toList.all fun c => c ∈ "0123456789abcdef".toList

def isTar (name : String) : Bool :=
  [".tar", ".tar.gz", ".tgz"].any fun suffix => suffix.toList.isSuffixOf name.toList

/-- Unpacked bytes of the nested archives so far, with those of one more. -/
def nestedBytes (site : Site) (path : Path) (content : Content) (expanded : Nat) : Except String Nat :=
  if path.getLast?.any isTar then do
    let total ← site.validateInnerTar content
    raiseIf (site.maxExtractedBytes < expanded + total) "Nested archive components exceed the total extraction limit"
    return expanded + total
  else .ok expanded

def componentPath (component : Component) : Except String Path := do
  let parts := purePath component.path
  raiseIf (parts = [] ∨ isAbsolute component.path ∨ ".." ∈ parts) "Archive manifest contains an unsafe component path"
  return parts

def checkContent (site : Site) (component : Component) (content : Content) : Except String Unit := do
  let subject := "Archive component " ++ posix (purePath component.path)
  let declared ← orRaise component.size.declared (subject ++ " has an invalid size")
  let checksum ← orRaise (component.sha256.filter isChecksum) (subject ++ " has an invalid SHA-256 value")
  raiseIf ((content.length : Int) ≠ declared) (subject ++ " has the wrong size")
  raiseIf (site.sha256 content ≠ checksum.toLower) (subject ++ " failed its SHA-256 check")

def checkComponents (site : Site) (tree : Tree) (root : Path) :
    List (Option Component) → List Path → Nat → Except String (List Path)
  | [], listed, _ => .ok listed
  | entry :: rest, listed, expanded => do
    let component ← orRaise entry "Archive manifest contains an invalid component entry"
    let path ← componentPath component
    raiseIf (path ∈ listed) ("Archive manifest lists " ++ posix path ++ " more than once")
    let content ← orRaise (tree.file (root ++ path))
      ("Archive component " ++ posix path ++ " is missing or not a regular file")
    checkContent site component content
    let expanded ← nestedBytes site path content expanded
    checkComponents site tree root rest (listed ++ [path]) expanded

def filesBelow (tree : Tree) (root : Path) : List Path :=
  (tree.files.filter fun file => root.isPrefixOf file.1).map fun file => file.1.drop root.length

def inventory (tree : Tree) (root : Path) : List Path :=
  (filesBelow tree root).filter fun path => path.getLast? ≠ some "manifest.json"

/-- `validate_archive`, after the extraction. -/
def validateArchive (site : Site) (tree : Tree) (expectedUsername : String) : Except String (Manifest × Path) := do
  let root ← archiveRoot tree
  let text ← orRaise ((tree.file (root ++ ["manifest.json"])).filter fun text => text.length ≤ 4 * 1024 * 1024)
    "manifest.json is missing or invalid"
  let manifest ← orRaise (site.loads text) "manifest.json is missing or invalid"
  raiseIf (manifest.format ≠ "boron-account-archive") "This is not a Boron portable account archive"
  raiseIf (manifest.formatVersion ≠ 1) "Unsupported Boron archive version"
  let username ← site.validateUsername manifest.username
  raiseIf (username ≠ expectedUsername) "The target username must match the username stored in this archive"
  let components ← orRaise manifest.components "Archive manifest has no component checksum inventory"
  let listed ← checkComponents site tree root components [] 0
  raiseIf (¬ (inventory tree root ⊆ listed ∧ listed ⊆ inventory tree root)) "Archive component inventory mismatch"
  return (manifest, root)

end Boron.PortableArchive

namespace Boron.PortableArchive
open Checks
variable {site : Site} {tree : Tree} {root : Path}

def Matches (site : Site) (component : Component) (content : Content) : Prop :=
  component.size.listed = some (content.length : Rat) ∧
    ∃ checksum, component.sha256 = some checksum ∧ site.sha256 content = checksum.toLower

def lists (path : Path) (entry : Option Component) : Bool := entry.any fun component => purePath component.path = path

/-- The checksums of a manifest cover the files below its directory: all but the
manifest are listed once, with their size and checksum, and nothing else is. -/
structure Covered (site : Site) (tree : Tree) (root : Path) (components : List (Option Component)) : Prop where
  complete : ∀ path content, (root ++ path, content) ∈ tree.files → path ≠ ["manifest.json"] →
    (components.filter (lists path)).length = 1 ∧
      ∀ component, some component ∈ components → purePath component.path = path → Matches site component content
  sound : ∀ entry ∈ components, ∃ component content, entry = some component ∧
    (root ++ purePath component.path, content) ∈ tree.files ∧ purePath component.path ≠ ["manifest.json"] ∧
      Matches site component content

variable {path : Path}

theorem Tree.file_eq {content : Content} : tree.file path = some content ↔ (path, content) ∈ tree.files := by
  have unique : Rows.Unique Prod.fst tree.files := tree.distinct.sublist (List.sublist_append_left _ _)
  unfold Tree.file
  rw [Option.map_eq_some_iff]
  constructor
  · rintro ⟨file, found, rfl⟩
    obtain ⟨member, named⟩ := Rows.byKey_some found
    exact named ▸ member
  · exact fun member => ⟨_, Rows.byKey_of_mem unique member, rfl⟩

theorem mem_filesBelow : path ∈ filesBelow tree root ↔ ∃ content, (root ++ path, content) ∈ tree.files := by
  unfold filesBelow
  simp only [List.mem_map, List.mem_filter, List.isPrefixOf_iff_prefix]
  constructor
  · rintro ⟨⟨whole, content⟩, ⟨member, rest, rfl⟩, rfl⟩
    exact ⟨content, by simpa using member⟩
  · rintro ⟨content, member⟩
    exact ⟨(root ++ path, content), ⟨member, List.prefix_append _ _⟩, by simp⟩

theorem mem_inventory :
    path ∈ inventory tree root ↔ path ∈ filesBelow tree root ∧ path.getLast? ≠ some "manifest.json" := by
  unfold inventory
  rw [List.mem_filter, decide_eq_true_eq]

def Checked (site : Site) (tree : Tree) (root : Path) (entry : Option Component) (path : Path) : Prop :=
  ∃ component content, entry = some component ∧ purePath component.path = path ∧
    (root ++ path, content) ∈ tree.files ∧ checkContent site component content = .ok ()

theorem componentPath_ok {component : Component} (named : componentPath component = .ok path) :
    purePath component.path = path := by
  unfold componentPath at named
  simp only [bind_eq_ok, pure_eq_ok] at named
  obtain ⟨_, _, same⟩ := named
  exact same

theorem checkComponents_ok {entries : List (Option Component)} {listed all : List Path} {expanded : Nat}
    (distinct : listed.Nodup) (checked : checkComponents site tree root entries listed expanded = .ok all) :
    all.Nodup ∧ ∃ paths, all = listed ++ paths ∧ List.Forall₂ (Checked site tree root) entries paths := by
  induction entries generalizing listed expanded with
  | nil =>
    cases checked
    exact ⟨distinct, [], (List.append_nil _).symm, .nil⟩
  | cons entry rest ih =>
    simp only [checkComponents, bind_eq_ok, raiseIf_eq_ok, orRaise_eq_ok] at checked
    obtain ⟨component, rfl, path, named, _, fresh, content, found, _, fits, more, _, later⟩ := checked
    have wider : (listed ++ [path]).Nodup :=
      List.nodup_append.mpr ⟨distinct, List.nodup_singleton _, fun other member _ single =>
        fun same => fresh (List.mem_singleton.mp single ▸ same ▸ member)⟩
    obtain ⟨unique, paths, rfl, each⟩ := ih wider later
    refine ⟨unique, path :: paths, by rw [List.append_assoc]; rfl, .cons ?_ each⟩
    exact ⟨component, content, rfl, componentPath_ok named, Tree.file_eq.mp found, fits⟩

def SizeField.whole : SizeField → Prop
  | .number value => value.den = 1
  | _ => True

theorem SizeField.listed_iff {size : SizeField} {length : Nat} (declared : size.declared = some (length : Int)) :
    size.listed = some (length : Rat) ↔ size.whole := by
  cases size with
  | number value =>
    have truncated : value.num.tdiv value.den = length := Option.some.inj declared
    simp only [SizeField.listed, SizeField.whole, Option.some.injEq]
    constructor
    · rintro rfl
      rfl
    · intro whole
      rw [whole, Int.ofNat_one, Int.tdiv_one] at truncated
      rw [← Rat.coe_int_num_of_den_eq_one whole, truncated]
      rfl
  | text parsed =>
    have same : parsed = some (length : Int) := declared
    rw [same]
    exact ⟨fun _ => trivial, fun _ => rfl⟩
  | other => cases declared

theorem matches_iff {component : Component} {content : Content} (fits : checkContent site component content = .ok ()) :
    Matches site component content ↔ component.size.whole := by
  simp only [checkContent, bind_eq_ok, raiseIf_eq_ok, orRaise_eq_ok, not_not] at fits
  obtain ⟨declared, size, checksum, given, _, rfl, sum⟩ := fits
  have summed : component.sha256 = some checksum := Option.eq_some_of_filter_eq_some given
  rw [← SizeField.listed_iff size]
  exact ⟨fun matched => matched.1, fun same => ⟨same, checksum, summed, sum⟩⟩

theorem listed_once {entries : List (Option Component)} {paths : List Path}
    (each : List.Forall₂ (Checked site tree root) entries paths) (path : Path) :
    (entries.filter (lists path)).length = paths.count path := by
  induction each with
  | nil => rfl
  | cons checked _ ih =>
    obtain ⟨component, content, rfl, rfl, _⟩ := checked
    rw [List.count_cons, ← ih]
    by_cases same : purePath component.path = path
    · rw [List.filter_cons_of_pos (by simpa [lists] using same), List.length_cons]
      simp [same]
    · rw [List.filter_cons_of_neg (by simpa [lists] using same)]
      simp [same]

/-- An archive that passes validation is covered by its checksums exactly when
no file in its directories is called like the manifest and no listed size is a
fraction. -/
theorem validated_covered {expectedUsername : String} {manifest : Manifest} {components : List (Option Component)}
    (valid : validateArchive site tree expectedUsername = .ok (manifest, root))
    (listing : manifest.components = some components) :
    Covered site tree root components ↔
      (∀ path ∈ filesBelow tree root, path.getLast? = some "manifest.json" → path = ["manifest.json"]) ∧
        ∀ component, some component ∈ components → component.size.whole := by
  simp only [validateArchive, bind_eq_ok, raiseIf_eq_ok, orRaise_eq_ok, pure_eq_ok, not_not] at valid
  obtain ⟨place, _, text, _, read, _, _, _, _, _, username, _, _, _, given, components', paths, checked, _,
    ⟨complete, sound⟩, same⟩ := valid
  obtain ⟨rfl, rfl⟩ := Prod.mk.inj same
  cases listing.symm.trans components'
  obtain ⟨unique, paths', rfl, each⟩ := checkComponents_ok List.nodup_nil checked
  have pathOf {entry : Option Component} (member : entry ∈ components) :
      ∃ path ∈ paths, Checked site tree place entry path := by
    obtain ⟨i, bound, rfl⟩ := List.getElem_of_mem member
    have within : i < paths.length := each.length_eq ▸ bound
    exact ⟨paths[i], List.getElem_mem within, each.get bound within⟩
  have contents {path : Path} {first second : Content} (here : (path, first) ∈ tree.files)
      (there : (path, second) ∈ tree.files) : first = second :=
    Option.some.inj ((Tree.file_eq.mpr here).symm.trans (Tree.file_eq.mpr there))
  constructor
  · rintro ⟨covers, lists⟩
    constructor
    · intro path below named
      by_contra other
      obtain ⟨content, member⟩ := mem_filesBelow.mp below
      have once := (covers path content member other).1
      rw [listed_once each] at once
      have listed : path ∈ paths := List.count_pos_iff.mp (by omega)
      exact (mem_inventory.mp (sound listed)).2 named
    · intro component member
      obtain ⟨path, _, _, content, ⟨⟩, rfl, stored, fits⟩ := pathOf member
      obtain ⟨_, other, ⟨⟩, present, _, matched⟩ := lists _ member
      rw [contents present stored] at matched
      exact (matches_iff fits).mp matched
  · rintro ⟨outer, whole⟩
    constructor
    · intro path content member other
      have named : path.getLast? ≠ some "manifest.json" := fun named => other (outer path (mem_filesBelow.mpr ⟨content, member⟩) named)
      have listed : path ∈ paths := complete (mem_inventory.mpr ⟨mem_filesBelow.mpr ⟨content, member⟩, named⟩)
      refine ⟨by rw [listed_once each, List.count_eq_one_of_mem unique listed], fun component inside same => ?_⟩
      obtain ⟨_, _, _, kept, ⟨⟩, rfl, stored, fits⟩ := pathOf inside
      rw [same] at stored
      rw [contents member stored]
      exact (matches_iff fits).mpr (whole component inside)
    · intro entry inside
      obtain ⟨path, listed, component, content, rfl, rfl, stored, fits⟩ := pathOf inside
      refine ⟨component, content, rfl, stored, fun apex => ?_, (matches_iff fits).mpr (whole component inside)⟩
      rw [apex] at listed
      exact (mem_inventory.mp (sound listed)).2 rfl

def bytes (text : String) : Content := text.toList.map fun c => UInt8.ofNat c.toNat

def helloSum : String := "2cf24dba5fb0a30e26e83b2ac5b9e29e1b161e5c1fa7425e73043362938b9824"

def listing : List (Option Component) := [some { path := "notes.txt", size := .number 5, sha256 := some helloSum }]

def manifestText (components : String) : Content :=
  bytes ("\x7b\"format\": \"boron-account-archive\", \"format_version\": 1, \"username\": \"demo1\", \"components\": [" ++
    components ++ "]\x7d")

def manifestOf (components : List (Option Component)) : Manifest :=
  { format := "boron-account-archive", formatVersion := 1, username := "demo1", components := some components }

/-- Reads the two manifests below, and knows the checksum of the one component. -/
def demoSite : Site :=
  { loads := fun text => some (manifestOf (if text.length < 110 then [] else listing))
    validateUsername := .ok, sha256 := fun _ => helloSum, validateInnerTar := fun _ => .ok 0, maxExtractedBytes := 1000000 }

def demoTree : Tree :=
  { files := [(["demo1", "manifest.json"], manifestText ("\x7b\"path\": \"notes.txt\", \"size_bytes\": 5, \"sha256\": \"" ++
        helloSum ++ "\"\x7d")), (["demo1", "notes.txt"], bytes "hello")]
    dirs := [["demo1"]], distinct := by decide, rooted := by decide }

/-- An account that lists nothing and has a file in a directory. -/
def strayTree : Tree :=
  { files := [(["demo1", "manifest.json"], manifestText ""), (["demo1", "mail", "manifest.json"], bytes "hello")]
    dirs := [["demo1"], ["demo1", "mail"]], distinct := by decide, rooted := by decide }

theorem lower_helloSum : helloSum.toLower = helloSum := by
  refine String.toList_inj.mp ?_
  have chars : helloSum.toList = _ := String.toList_ofList
  rw [String.toLower, String.toList_map, chars]
  rfl

theorem isChecksum_helloSum : isChecksum helloSum = true := by
  have chars : helloSum.toList = _ := String.toList_ofList
  unfold isChecksum
  rw [lower_helloSum, ← String.length_toList, chars]
  rfl

def notes : Component := { path := "notes.txt", size := .number 5, sha256 := some helloSum }

theorem checkContent_notes : checkContent demoSite notes (bytes "hello") = .ok () := by
  have checksum : notes.sha256.filter isChecksum = some helloSum := by
    unfold notes
    simp only [Option.filter_some, isChecksum_helloSum, if_true]
  have sum : ¬ demoSite.sha256 (bytes "hello") ≠ helloSum.toLower := by
    rw [lower_helloSum]
    exact not_not_intro rfl
  refine bind_eq_ok.mpr ⟨5, rfl, bind_eq_ok.mpr ⟨helloSum, orRaise_eq_ok.mpr checksum, ?_⟩⟩
  exact bind_eq_ok.mpr ⟨(), rfl, raiseIf_eq_ok.mpr sum⟩

theorem checkComponents_listing : checkComponents demoSite demoTree ["demo1"] listing [] 0 = .ok [["notes.txt"]] := by
  refine bind_eq_ok.mpr ⟨notes, rfl, bind_eq_ok.mpr ⟨["notes.txt"], rfl, ?_⟩⟩
  refine bind_eq_ok.mpr ⟨(), rfl, bind_eq_ok.mpr ⟨bytes "hello", rfl, ?_⟩⟩
  refine bind_eq_ok.mpr ⟨(), checkContent_notes, bind_eq_ok.mpr ⟨0, rfl, rfl⟩⟩

/-- The text of the manifest of `demoTree`. -/
def demoText : Content :=
  manifestText ("\x7b\"path\": \"notes.txt\", \"size_bytes\": 5, \"sha256\": \"" ++ helloSum ++ "\"\x7d")

theorem length_bytes (text : String) : (bytes text).length = text.length := by
  unfold bytes
  rw [List.length_map, String.length_toList]

theorem length_demoText : demoText.length = 211 := by
  unfold demoText manifestText
  rw [length_bytes, ← String.length_toList]
  simp only [String.toList_append, List.length_append]
  rfl

theorem file_demoTree : demoTree.file ["demo1", "manifest.json"] = some demoText := by
  simp [Tree.file, Rows.byKey, demoTree, demoText]

theorem validated_covered_demo : Covered demoSite demoTree ["demo1"] listing := by
  have text : (demoTree.file ["demo1", "manifest.json"]).filter (fun text => text.length ≤ 4 * 1024 * 1024) = some demoText := by
    rw [file_demoTree, Option.filter_some, length_demoText]
    rfl
  have manifest : demoSite.loads demoText = some (manifestOf listing) := by
    unfold demoSite
    simp only [length_demoText]
    rfl
  have valid : validateArchive demoSite demoTree "demo1" = .ok (manifestOf listing, ["demo1"]) := by
    unfold validateArchive
    refine bind_eq_ok.mpr ⟨["demo1"], rfl, bind_eq_ok.mpr ⟨demoText, orRaise_eq_ok.mpr text, ?_⟩⟩
    refine bind_eq_ok.mpr ⟨manifestOf listing, orRaise_eq_ok.mpr manifest, ?_⟩
    refine bind_eq_ok.mpr ⟨(), rfl, bind_eq_ok.mpr ⟨(), rfl, ?_⟩⟩
    refine bind_eq_ok.mpr ⟨"demo1", rfl, bind_eq_ok.mpr ⟨(), rfl, ?_⟩⟩
    refine bind_eq_ok.mpr ⟨listing, rfl, bind_eq_ok.mpr ⟨_, checkComponents_listing, ?_⟩⟩
    exact bind_eq_ok.mpr ⟨(), rfl, rfl⟩
  refine (validated_covered valid rfl).mpr ⟨by decide, fun component member => ?_⟩
  cases List.mem_singleton.mp member
  rfl

/-- A file that is called manifest.json is left out of the inventory in every
directory, and passes without a checksum. -/
theorem stray_manifest : ¬ ∀ (site : Site) (tree : Tree) (expectedUsername : String) (manifest : Manifest) (root : Path)
    (components : List (Option Component)), validateArchive site tree expectedUsername = .ok (manifest, root) →
    manifest.components = some components → Covered site tree root components := by
  intro always
  have valid : validateArchive demoSite strayTree "demo1" = .ok (manifestOf [], ["demo1"]) := rfl
  have covered := always demoSite strayTree "demo1" _ ["demo1"] [] valid rfl
  have member : (["demo1"] ++ ["mail", "manifest.json"], bytes "hello") ∈ strayTree.files :=
    List.mem_cons_of_mem _ List.mem_cons_self
  have once := (covered.complete ["mail", "manifest.json"] (bytes "hello") member (by decide)).1
  cases once

end Boron.PortableArchive
