import BenchSuite.Proofs.Files.OrdinaryNames
import BenchSuite.Proofs.Files.Writing
import BenchSuite.Proofs.Json.RoundTrip
import BenchSuite.Proofs.Run.Blindness

/-!
# Running elsewhere

The manifest that a configuration file names is seen from the directory of this file.  So it does
not matter where the program is started: in any directory, it finds the same manifest if it finds
the same configuration file, as long as the paths do not become too long to be followed.
-/

namespace BenchSuite

open FileTree

variable {tree : FileTree} {names place : List String} {file : String} {settings : Config}

/-- Along ordinary names, a directory is reached at a place, and it has a file of an ordinary name
that holds these settings. -/
structure FileTree.KeepsConfig (tree : FileTree) (names place : List String) (file : String)
    (settings : Config) : Prop where
  nonempty : names ≠ []
  ordinary : ∀ name ∈ names ++ [file], Path.IsOrdinary name
  leads : tree.locate (Path.ofNames names) = .ok place
  reads : ∃ text, tree.readText (Path.ofNames (names ++ [file])) = .ok text ∧
    (Json.parse? text).bind Config.ofJson? = some settings

theorem Config.load_of_readText {path directory : Path} {text : String}
    (reads : tree.readText path = .ok text)
    (parsed : (Json.parse? text).bind ofJson? = some settings)
    (parent : path.parent? = some directory) :
    load tree path = .ok (settings.naming (settings.manifest?.map directory.join)) := by
  simp only [load, reads, parsed, parent]
  rfl

namespace FileTree.KeepsConfig

variable (keeps : tree.KeepsConfig names place file settings)

include keeps

theorem ordinary_file : Path.IsOrdinary file :=
  keeps.ordinary file (by simp)

theorem loadConfig_above (arguments : Arguments) :
    (arguments.configuredBy (some (Path.ofNames (names ++ [file])))).loadConfig tree =
      .ok (settings.naming (settings.manifest?.map (Path.ofNames names).join)) := by
  obtain ⟨text, reads, parsed⟩ := keeps.reads
  exact Config.load_of_readText reads parsed (Path.parent?_ofNames keeps.ordinary)

theorem loadConfig_inside (arguments : Arguments) :
    (arguments.configuredBy (some ⟨file⟩)).loadConfig (tree.startedIn place) =
      .ok (settings.naming settings.manifest?) := by
  obtain ⟨text, reads, parsed⟩ := keeps.reads
  have fits := fits_of_readText reads
  have ordinary : ∀ name ∈ names, Path.IsOrdinary name :=
    fun name listed => keeps.ordinary name (List.mem_append_left [file] listed)
  rw [Path.ofNames_concat keeps.nonempty ordinary keeps.ordinary_file] at reads fits
  rw [readText_join keeps.leads keeps.ordinary_file.isRelative fits] at reads
  have parent : Path.parent? ⟨file⟩ = some ⟨""⟩ := by
    have alone : ∀ name ∈ [] ++ [file], Path.IsOrdinary name := by simpa using keeps.ordinary_file
    simpa [Path.ofNames] using Path.parent?_ofNames alone
  have seen : Path.join ⟨""⟩ = id := funext Path.join_of_nameless
  have loaded := Config.load_of_readText reads parsed parent
  rwa [seen, Option.map_id_fun, id] at loaded

end FileTree.KeepsConfig

/-- A configuration file means the same wherever the program is started.  If it names a manifest by
a relative path, the program gives the same answer when it is started where the path to the file
begins and when it is started in the directory of the file, unless the path to the manifest becomes
too long.  If the command line names a manifest, it makes no difference to either run which one the
configuration names: every run under a configuration that agrees with it on everything else goes
alike, as long as the manifest of the command line is the same. -/
theorem program_startedIn {words words' : List String} {arguments : Arguments}
    (keeps : tree.KeepsConfig names place file settings)
    (parsed : CommandLine.parse words =
      .ok (arguments.configuredBy (some (Path.ofNames (names ++ [file])))))
    (parsed' : CommandLine.parse words' = .ok (arguments.configuredBy (some ⟨file⟩)))
    (printed : arguments.command.output? = none) :
    let above := program words tree
    let inside := program words' (tree.startedIn place)
    (∀ manifest : Path, arguments.command.manifest? = none →
      settings.manifest? = some manifest → manifest.IsRelative →
      Fits (Suite.manifestFile tree ((Path.ofNames names).join manifest)) →
        above.answer = inside.answer) ∧
    ∀ asked : Path, arguments.command.manifest? = some asked →
      ∀ otherWords path otherTree named?,
        CommandLine.parse otherWords = .ok (arguments.configuredBy (some path)) →
        Config.load otherTree path = .ok (settings.naming named?) →
        let other := program otherWords otherTree
        (Suite.load tree asked = Suite.load otherTree asked →
          above.answer = other.answer ∧ above.errors = other.errors) ∧
        (Suite.load (tree.startedIn place) asked = Suite.load otherTree asked →
          inside.answer = other.answer ∧ inside.errors = other.errors) := by
  intro above inside
  have configured := keeps.loadConfig_above arguments
  have configured' := keeps.loadConfig_inside arguments
  have ended : above = _ := program_of_parse parsed tree
  have ended' : inside = _ := program_of_parse parsed' (tree.startedIn place)
  refine ⟨fun manifest unasked named relative fits => ?_,
    fun asked asks otherWords path otherTree named? otherParsed loads => ?_⟩
  · rw [ended, ended']
    refine (Arguments.outcome_alike printed configured configured' ?_).1
    simp only [Arguments.soughtAt, Config.manifestPath, Config.naming, unasked, named]
    exact Suite.load_join keeps.leads relative fits
  · intro other
    have otherConfigured : (arguments.configuredBy (some path)).loadConfig otherTree =
        .ok (settings.naming named?) := loads
    rw [ended, ended', show other = _ from program_of_parse otherParsed otherTree]
    exact ⟨Arguments.outcome_alike_of_asked asks printed configured otherConfigured,
      Arguments.outcome_alike_of_asked asks printed configured' otherConfigured⟩

/-- A directory with a suite, and two configuration files that name different manifests. -/
def nestedSuite : FileTree where
  nodes := [(["d"], .directory), (["d", "c"], .file "[\"./m\"]".toUTF8),
    (["d", "e"], .file "[\"x\"]".toUTF8), (["d", "m"], .file "benchmarks: [{name: a}]".toUTF8)]

theorem nestedSuite_keepsConfig :
    nestedSuite.KeepsConfig ["d"] ["d"] "c" { manifest? := some ⟨"./m"⟩ } where
  nonempty := by simp
  ordinary := by
    intro name listed
    rcases List.mem_pair.mp listed with rfl | rfl <;>
      exact ⟨by decide, by decide, by decide, by decide⟩
  leads := by decide +kernel
  reads := ⟨"[\"./m\"]", by decide +kernel, by decide +kernel⟩

/-- The suite is found from above and from inside, and a manifest on the command line makes up for a
configuration that leads nowhere. -/
theorem program_startedIn_nested :
    let above := ["--config", "d/c", "list", "-b", "a"]
    let inside := ["--config", "c", "list", "-b", "a"]
    let elsewhere := ["--config", "d/e", "list", "-b", "a", "--manifest", "d/m"]
    (program above nestedSuite).answer = (program inside (nestedSuite.startedIn ["d"])).answer ∧
      (program inside (nestedSuite.startedIn ["d"])).answer = (0, "- a\n\nTotal: 1 benchmarks\n") ∧
      (program (above ++ ["--manifest", "d/m"]) nestedSuite).answer =
        (program elsewhere nestedSuite).answer := by
  intro above inside elsewhere
  let choice : Choice := .selections [⟨.inclusion, "a", .name "a"⟩]
  let asking := fun asked? : Option Path => ({ command := .list asked? choice } : Arguments)
  let configPath := Path.ofNames (["d"] ++ ["c"])
  refine ⟨?_, by decide +kernel, ?_⟩
  · have parsed : CommandLine.parse above = .ok ((asking none).configuredBy (some configPath)) := by
      decide +kernel
    have parsed' : CommandLine.parse inside = .ok ((asking none).configuredBy (some ⟨"c"⟩)) := by
      decide +kernel
    exact (program_startedIn nestedSuite_keepsConfig parsed parsed' rfl).1 ⟨"./m"⟩ rfl rfl
      ⟨by decide, by decide⟩ (by decide +kernel)
  · have parsed : CommandLine.parse (above ++ ["--manifest", "d/m"]) =
        .ok ((asking (some ⟨"d/m"⟩)).configuredBy (some configPath)) := by
      decide +kernel
    have parsed' : CommandLine.parse (inside ++ ["--manifest", "d/m"]) =
        .ok ((asking (some ⟨"d/m"⟩)).configuredBy (some ⟨"c"⟩)) := by
      decide +kernel
    have parsed'' : CommandLine.parse elsewhere =
        .ok ((asking (some ⟨"d/m"⟩)).configuredBy (some ⟨"d/e"⟩)) := by
      decide +kernel
    have loads : Config.load nestedSuite ⟨"d/e"⟩ =
        .ok (Config.naming { manifest? := some ⟨"./m"⟩ } (some ⟨"d/x"⟩)) := by
      decide +kernel
    have alike := (program_startedIn nestedSuite_keepsConfig parsed parsed' rfl).2 ⟨"d/m"⟩ rfl
      elsewhere ⟨"d/e"⟩ nestedSuite (some ⟨"d/x"⟩) parsed'' loads
    exact (alike.1 rfl).1

/-- A configuration that names a manifest and nothing else. -/
def configNaming (manifest : Path) : Json :=
  .object [("manifest", .string manifest.text)]

theorem ofJson?_configNaming (manifest : Path) :
    (Json.parse? (configNaming manifest).render).bind Config.ofJson? =
      some { manifest? := some manifest } := by
  have numberless : (configNaming manifest).Numberless := by
    refine .object fun field listed => ?_
    rw [List.mem_singleton.mp listed]
    exact .string manifest.text
  rw [Json.parse?_render numberless]
  rfl

/-- A path of two components, with slashes between them that are not needed. -/
def slashedPath (needless : Nat) : Path :=
  ⟨"./" ++ String.ofList (List.replicate needless '/') ++ "m"⟩

/-- A directory with a suite and a configuration file that names it by such a path. -/
def slashedSuite (needless : Nat) : FileTree where
  nodes := [(["d"], .directory),
    (["d", "c"], .file (configNaming (slashedPath needless)).render.toUTF8),
    (["d", "m"], .file "benchmarks: [{name: a}]".toUTF8)]

section Slashes

variable (needless : Nat)

theorem slashedSuite_keepsConfig : (slashedSuite needless).KeepsConfig ["d"] ["d"] "c"
    { manifest? := some (slashedPath needless) } where
  nonempty := by simp
  ordinary := nestedSuite_keepsConfig.ordinary
  leads := by rfl
  reads := by
    have holds : (slashedSuite needless).Holds (Path.ofNames (["d"] ++ ["c"]))
        (configNaming (slashedPath needless)).render :=
      ⟨["d", "c"], by rfl, rfl⟩
    exact ⟨_, holds.readText, ofJson?_configNaming (slashedPath needless)⟩

theorem utf8ByteSize_slashedPath : (slashedPath needless).text.utf8ByteSize = needless + 3 := by
  have slashes : (String.ofList (List.replicate needless '/')).utf8ByteSize = needless := by
    induction needless with
    | zero => rfl
    | succ needless ih =>
        rw [List.replicate_succ, String.ofList_cons, String.utf8ByteSize_append, ih,
          String.utf8ByteSize_singleton]
        exact Nat.add_comm 1 needless
  have begins : "./".utf8ByteSize = 2 := by decide +kernel
  have ends : "m".utf8ByteSize = 1 := by decide +kernel
  simp only [slashedPath, String.utf8ByteSize_append, slashes]
  omega

theorem toList_slashedPath : (slashedPath needless).text.toList =
    ['.'] ++ '/' :: (List.replicate needless '/' ++ ['m']) := by
  simp [slashedPath]

theorem components_slashedPath : (slashedPath needless).components = [".", "m"] := by
  have slashes : Text.cut '/' (List.replicate needless '/' ++ ['m']) =
      List.replicate needless [] ++ [['m']] := by
    induction needless with
    | zero => rfl
    | succ needless ih =>
        rw [List.replicate_succ, List.cons_append, Text.cut, if_pos rfl, ih]
        rfl
  rw [Path.components, Path.pieces, toList_slashedPath, Text.cut_append_cons, slashes]
  simp [Text.cut]

theorem isRelative_slashedPath : (slashedPath needless).IsRelative where
  nonempty := by simp [slashedPath]
  unrooted := by simp [Path.isAbsolute, toList_slashedPath]

theorem utf8ByteSize_join_slashedPath :
    (Path.join (Path.ofNames ["d"]) (slashedPath needless)).text.utf8ByteSize = needless + 5 := by
  have begins : (Path.ofNames ["d"]).text.utf8ByteSize = 1 := by decide +kernel
  have between : (Path.ofNames ["d"]).gap.utf8ByteSize = 1 := by decide +kernel
  simp only [Path.text_join (isRelative_slashedPath needless).unrooted, String.utf8ByteSize_append,
    utf8ByteSize_slashedPath]
  omega

theorem hasTrailingSlash_slashedPath : (slashedPath needless).hasTrailingSlash = false := by
  have ends : (slashedPath needless).text.toList =
      ('.' :: '/' :: List.replicate needless '/') ++ ['m'] := by
    simp [toList_slashedPath]
  rw [Path.hasTrailingSlash, ends, List.getLast?_concat]
  rfl

theorem locate_slashedPath (fits : Fits (slashedPath needless)) :
    ((slashedSuite needless).startedIn ["d"]).locate (slashedPath needless) = .ok ["d", "m"] := by
  let inside := (slashedSuite needless).startedIn ["d"]
  have clean : '\x00' ∉ (slashedPath needless).text.toList := by
    simp [toList_slashedPath]
  have relative := isRelative_slashedPath needless
  have starts := inside.start_of_clean clean relative.nonempty fits
  rw [locate_of_start starts, origin, relative.unrooted, components_slashedPath,
    hasTrailingSlash_slashedPath]
  rfl

theorem exists_load_slashedPath (fits : Fits (slashedPath needless)) : ∃ suite,
    Suite.load ((slashedSuite needless).startedIn ["d"]) (slashedPath needless) = .ok suite := by
  let inside := (slashedSuite needless).startedIn ["d"]
  have located : inside.locate (slashedPath needless) = _ := locate_slashedPath needless fits
  have found : inside.node? ["d", "m"] = some (.file "benchmarks: [{name: a}]".toUTF8) := rfl
  have holds : inside.Holds (slashedPath needless) "benchmarks: [{name: a}]" := ⟨_, located, found⟩
  have single : inside.isDirectory (slashedPath needless) = false := by
    simp [isDirectory, located, found]
  obtain ⟨suite, loads⟩ := exists_eq_ok
    (show (Suite.ofText "benchmarks: [{name: a}]").isOk = true by decide +kernel)
  exact ⟨suite, (Suite.load_of_readText single holds.readText).trans loads⟩

/-- Listing the groups of the suite, under the configuration of a path. -/
def listingUnder (path : Path) : Arguments where
  config? := some path
  command := .listGroups none

theorem exitCode_above (long : ¬ Fits (Path.join (Path.ofNames ["d"]) (slashedPath needless))) :
    ((listingUnder (Path.ofNames ["d", "c"])).outcome (slashedSuite needless)).exitCode = 1 := by
  have keeps := slashedSuite_keepsConfig needless
  have configured := keeps.loadConfig_above (listingUnder (Path.ofNames ["d", "c"]))
  obtain ⟨error, unloaded⟩ := Suite.exists_load_eq_error long
  have ended := Arguments.outcome_run_of_unloaded configured rfl unloaded
  exact congrArg Outcome.exitCode (Arguments.outcome_of_error ended)

theorem exitCode_inside (fits : Fits (slashedPath needless)) :
    ((listingUnder ⟨"c"⟩).outcome ((slashedSuite needless).startedIn ["d"])).exitCode = 0 := by
  have keeps := slashedSuite_keepsConfig needless
  have configured := keeps.loadConfig_inside (listingUnder ⟨"c"⟩)
  obtain ⟨suite, loads⟩ := exists_load_slashedPath needless fits
  have ended := Arguments.outcome_run_of_prepares ⟨configured, rfl, loads⟩
  exact congrArg Outcome.exitCode (Arguments.outcome_of_ok ended)

end Slashes

/-- What is short enough inside the directory of a configuration file may be too long from above. -/
theorem program_too_long_above :
    let manifest := slashedPath 4092
    let tree := slashedSuite 4092
    let arguments : Arguments := { command := .listGroups none }
    let words := ["--config", "d/c", "list-groups"]
    let words' := ["--config", "c", "list-groups"]
    tree.KeepsConfig ["d"] ["d"] "c" { manifest? := some manifest } ∧ manifest.IsRelative ∧
      CommandLine.parse words =
        .ok (arguments.configuredBy (some (Path.ofNames (["d"] ++ ["c"])))) ∧
      CommandLine.parse words' = .ok (arguments.configuredBy (some ⟨"c"⟩)) ∧
      (program words tree).exitCode = 1 ∧ (program words' (tree.startedIn ["d"])).exitCode = 0 := by
  intro manifest tree arguments words words'
  have parsed : CommandLine.parse words =
      .ok (arguments.configuredBy (some (Path.ofNames (["d"] ++ ["c"])))) := by
    decide +kernel
  have parsed' : CommandLine.parse words' = .ok (arguments.configuredBy (some ⟨"c"⟩)) := by
    decide +kernel
  have fits : Fits manifest := by
    rw [Fits, utf8ByteSize_slashedPath]
    decide
  have long : ¬ Fits (Path.join (Path.ofNames ["d"]) manifest) := by
    rw [Fits, utf8ByteSize_join_slashedPath]
    decide
  refine ⟨slashedSuite_keepsConfig 4092, isRelative_slashedPath 4092, parsed, parsed', ?_, ?_⟩
  · rw [program_of_parse parsed]
    exact exitCode_above 4092 long
  · rw [program_of_parse parsed']
    exact exitCode_inside 4092 fits

end BenchSuite
