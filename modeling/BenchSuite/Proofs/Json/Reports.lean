import BenchSuite.Proofs.Json.RoundTrip
import BenchSuite.Report

/-!
# Reports as JSON

A report in JSON can be read again: it is one document and a line break, and the document is the
object of the report's lists.  The environment has a field only if there is one to be passed on, so
that a field that is missing stands for an empty list, and no two reports are written alike.
-/

namespace BenchSuite

namespace Json

theorem numberless_texts (items : List String) : Numberless (texts items) := by
  refine .array fun item among => ?_
  obtain ⟨text, -, rfl⟩ := List.mem_map.mp among
  exact .string text

theorem texts_inj {items others : List String} : texts items = texts others ↔ items = others := by
  rw [texts, texts, array.injEq, List.map_inj_right fun _ _ => string.inj]

end Json

namespace Report

variable {report other : Report}

theorem numberless_toJson (report : Report) : report.toJson.Numberless := by
  refine .object fun field among => ?_
  have lists : ∃ items, field.2 = Json.texts items := by
    rcases List.mem_append.mp among with always | environment
    · simp only [List.mem_cons, List.not_mem_nil, or_false] at always
      rcases always with rfl | rfl
      · exact ⟨_, rfl⟩
      · exact ⟨_, rfl⟩
    · split at environment
      · cases environment
      · rw [List.mem_singleton.mp environment]
        exact ⟨_, rfl⟩
  obtain ⟨items, holds⟩ := lists
  rw [holds]
  exact Json.numberless_texts items

theorem toJson_inj : report.toJson = other.toJson ↔ report = other := by
  constructor
  · intro same
    simp only [toJson, Json.object.injEq, List.cons_append, List.nil_append, List.cons.injEq,
      Prod.mk.injEq, true_and, Json.texts_inj] at same
    obtain ⟨benchmarks, unmatched, fields⟩ := same
    -- The field is there exactly if the list is not empty, and then it tells the list.
    have environment : report.environment = other.environment := by
      cases ours : report.environment <;> cases theirs : other.environment <;>
        simp_all [Json.texts_inj]
    cases report
    cases other
    cases benchmarks
    cases unmatched
    cases environment
    rfl
  · rintro rfl
    rfl

/-- A report in JSON is a document and a line break.  The document is read as the object of the
report's lists, without a field for an environment that is empty, and no other report is written
in the same way. -/
theorem report_of_document (report : Report) :
    (∃ document, report.render .json = document ++ "\n" ∧
      Json.parse? document = some (.object
        ([("benchmarks", .array (report.benchmarks.map .string)),
          ("unmatched", .array (report.unmatched.map .string))] ++
          if report.environment = [] then []
          else [("inherit_environ", .array (report.environment.map .string))]))) ∧
      ∀ other : Report, other.render .json = report.render .json ↔ other = report := by
  have reads (report : Report) : Json.parse? report.toJson.render = some report.toJson :=
    Json.parse?_render report.numberless_toJson
  refine ⟨⟨report.toJson.render, rfl, ?_⟩, fun other => ⟨fun same => ?_, fun same => same ▸ rfl⟩⟩
  · rw [reads, toJson]
    simp only [List.isEmpty_iff]
    rfl
  · have documents : other.toJson.render = report.toJson.render := by
      have broken := congrArg String.toList same
      simp only [render, String.toList_append] at broken
      exact String.toList_inj.mp (List.append_cancel_right broken)
    apply toJson_inj.mp
    exact Option.some.inj (by rw [← reads, ← reads, documents])

/-- Without an environment there is no field for one. -/
example :
    render { benchmarks := ["a"], unmatched := [] } .json =
      "\x7b\n  \"benchmarks\": [\n    \"a\"\n  ],\n  \"unmatched\": []\n\x7d\n" := by
  decide

end Report

end BenchSuite
