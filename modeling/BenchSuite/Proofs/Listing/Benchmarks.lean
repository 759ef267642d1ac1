import BenchSuite.Listing
import BenchSuite.Report
import BenchSuite.Proofs.Manifest.OwnNames
import BenchSuite.Proofs.Selection.Parts
import BenchSuite.Proofs.Text.Lines

/-!
# Benchmarks line by line

A plain report and a listing of benchmarks give every benchmark a line of its own, and nothing in
the line is escaped.  They can be read again because the benchmarks of a suite have names without
line breaks, and because a line of a listing is never blank, whatever the name in it.
-/

namespace BenchSuite

namespace Report

theorem toList_lines (report : Report) :
    report.lines.toList = (report.benchmarks.map String.toList).flatMap (· ++ ['\n']) := by
  simp [lines, List.flatMap_map]

theorem lines?_render_plain (report : Report)
    (clean : ∀ name ∈ report.benchmarks, '\n' ∉ name.toList) :
    Text.lines? (report.render .plain) = some (report.benchmarks.map String.toList) :=
  Text.lines?_of_toList report.toList_lines (by simpa using clean)

end Report

namespace Listing

/-- The name that a line of a list holds. -/
def item? (line : List Char) : Option String :=
  String.ofList <$> Text.behind? ['-', ' '] line

/-- The number that the last line of a listing holds. -/
def total? (line : List Char) : Option Nat := do
  let (total, rest) ← Text.number? (← Text.behind? "Total: ".toList line)
  if rest = " benchmarks".toList then some total else none

/-- The names that are listed up to the first blank line, and the total that is given behind it. -/
def readBenchmarks? (text : String) : Option (List String × Nat) := do
  let lines ← Text.lines? text
  let names ← (lines.takeWhile (· ≠ [])).mapM item?
  match lines.dropWhile (· ≠ []) with
  | [_, last] => (names, ·) <$> total? last
  | _ => none

def itemLine (name : String) : List Char :=
  '-' :: ' ' :: name.toList

def totalLine (total : Nat) : List Char :=
  "Total: ".toList ++ (toString total).toList ++ " benchmarks".toList

theorem item?_itemLine (name : String) : item? (itemLine name) = some name := by
  have found : Text.behind? ['-', ' '] (itemLine name) = some name.toList :=
    Text.behind?_append ['-', ' '] name.toList
  rw [item?, found, Option.map_eq_map, Option.map_some, String.ofList_toList]

theorem total?_totalLine (total : Nat) : total? (totalLine total) = some total := by
  have stops : " benchmarks".toList.head?.any Char.isDigit = false := by decide
  have number := Text.number?_toString total stops
  unfold total? totalLine
  generalize (toString total).toList = digits at number ⊢
  rw [List.append_assoc, Text.behind?_append, Option.bind_eq_bind, Option.bind_some, number]
  rfl

theorem toList_line (name : String) : (line name).toList = itemLine name ++ ['\n'] := by
  simp [line, itemLine]

theorem toList_benchmarks (names : List String) :
    (benchmarks names).toList =
      (names.map itemLine ++ [[], totalLine names.length]).flatMap (· ++ ['\n']) := by
  unfold benchmarks totalLine
  generalize toString names.length = digits
  simp [List.flatMap_map, toList_line]

theorem lineBreak_not_mem_itemLine {name : String} (clean : '\n' ∉ name.toList) :
    '\n' ∉ itemLine name := by
  simpa [itemLine] using clean

theorem lineBreak_not_mem_totalLine (total : Nat) : '\n' ∉ totalLine total := by
  have digits := Text.not_mem_toString_of_not_isDigit (c := '\n') (by decide) total
  unfold totalLine
  simp only [List.mem_append, not_or]
  exact ⟨⟨by decide, digits⟩, by decide⟩

theorem readBenchmarks?_benchmarks {names : List String}
    (clean : ∀ name ∈ names, '\n' ∉ name.toList) :
    readBenchmarks? (benchmarks names) = some (names, names.length) := by
  have lines : Text.lines? (benchmarks names) =
      some (names.map itemLine ++ [[], totalLine names.length]) := by
    apply Text.lines?_of_toList (toList_benchmarks names)
    intro line listed
    rcases List.mem_append.mp listed with item | last
    · obtain ⟨name, member, rfl⟩ := List.mem_map.mp item
      exact lineBreak_not_mem_itemLine (clean name member)
    · rcases List.mem_pair.mp last with rfl | rfl
      · exact List.not_mem_nil
      · exact lineBreak_not_mem_totalLine names.length
  have written : ∀ line ∈ names.map itemLine, decide (line ≠ []) = true := by
    simp [itemLine]
  have items := Text.mapM_map_eq_some fun name (_ : name ∈ names) => item?_itemLine name
  unfold readBenchmarks?
  rw [lines, Option.bind_eq_bind, Option.bind_some, List.takeWhile_append_of_pos written,
    List.dropWhile_append_of_pos written]
  simp [items, total?_totalLine]

end Listing

namespace Manifest

variable {manifest : Manifest} {suite : Suite} {guard : Option NegationGuard}
  {selections : List Selection} {resolution : Resolution}

/-- What has been selected from a suite are names of its benchmarks, which hold no line break. -/
theorem lineBreak_not_mem_of_resolves (loads : manifest.suite = .ok suite)
    (resolves : suite.catalog.resolveGuarded guard selections = .ok resolution) :
    ∀ name ∈ resolution.benchmarks, '\n' ∉ name.toList := by
  obtain ⟨registry, definitions, becomes⟩ := exists_becomes loads
  obtain ⟨-, rfl⟩ := Catalog.resolveGuarded_eq_ok_iff.mp resolves
  intro name selected
  have registered := (Catalog.resolve_benchmarks_sublist suite.catalog selections).subset selected
  exact (becomes.isBenchmarkSpelling registered).not_mem_of_isBlank (by decide)

/-- Whatever is selected from a suite, under any guard, the plain report can be cut at its line
breaks into the names of the benchmarks, and these are also the names that the listing holds up to
its first blank line, behind which their number is given.  So what has been selected, be it from
different suites, is the same benchmarks in the same order if it is printed alike. -/
theorem resolution_of_lines (loads : manifest.suite = .ok suite)
    (resolves : suite.catalog.resolveGuarded guard selections = .ok resolution)
    (environment : List String) :
    Text.lines? ((Report.ofResolution resolution environment).render .plain) =
        some (resolution.benchmarks.map String.toList) ∧
      Listing.readBenchmarks? (Listing.benchmarks resolution.benchmarks) =
        some (resolution.benchmarks, resolution.benchmarks.length) ∧
      ∀ (other : Manifest) (suite' : Suite) (guard' : Option NegationGuard)
        (selections' : List Selection) (resolution' : Resolution) (environment' : List String),
        other.suite = .ok suite' →
        suite'.catalog.resolveGuarded guard' selections' = .ok resolution' →
        ((Report.ofResolution resolution environment).render .plain =
            (Report.ofResolution resolution' environment').render .plain ∨
          Listing.benchmarks resolution.benchmarks = Listing.benchmarks resolution'.benchmarks) →
        resolution.benchmarks = resolution'.benchmarks := by
  have clean := lineBreak_not_mem_of_resolves loads resolves
  have plain := (Report.ofResolution resolution environment).lines?_render_plain clean
  have listed := Listing.readBenchmarks?_benchmarks clean
  refine ⟨plain, listed, ?_⟩
  intro other suite' guard' selections' resolution' environment' loads' resolves' same
  have clean' := lineBreak_not_mem_of_resolves loads' resolves'
  rcases same with samePlain | sameListing
  · have plain' := (Report.ofResolution resolution' environment').lines?_render_plain clean'
    have determined : Function.Injective String.toList := fun _ _ => String.toList_inj.mp
    rw [samePlain, plain'] at plain
    exact (determined.list_map (Option.some.inj plain)).symm
  · rw [sameListing, Listing.readBenchmarks?_benchmarks clean'] at listed
    exact (congrArg Prod.fst (Option.some.inj listed)).symm

/-- A dash at the beginning of a name is told from the dash of its line. -/
theorem resolution_of_dashed_lines :
    dashed.suite = .ok dashedSuite ∧
      dashedSuite.catalog.resolveGuarded (some {}) [] = .ok ⟨["-a", "b"], []⟩ ∧
      Listing.benchmarks ["-a", "b"] = "- -a\n- b\n\nTotal: 2 benchmarks\n" ∧
      Text.lines? ((Report.ofResolution ⟨["-a", "b"], []⟩ []).render .plain) =
        some [['-', 'a'], ['b']] ∧
      Listing.readBenchmarks? (Listing.benchmarks ["-a", "b"]) = some (["-a", "b"], 2) := by
  have loads : dashed.suite = .ok dashedSuite := by decide +kernel
  have resolves :
      dashedSuite.catalog.resolveGuarded (some {}) [] = .ok ⟨["-a", "b"], []⟩ := by
    decide +kernel
  obtain ⟨plain, listed, -⟩ := resolution_of_lines loads resolves []
  exact ⟨loads, resolves, by decide +kernel, plain, listed⟩

end Manifest

end BenchSuite
