import EntryScan.Proofs.RawAgreement
import EntryScan.Proofs.ReportGraph

/-!
# EntryScan.Proofs.AddressRoundTrip

The text of an address stands for it. It is read back as the address modulo `2 ^ 64`, and it can be
given as the base address of raw code: the run then reports on the code at that address, and shows
the base address by the same text.

* `Report.field?_base`: how a report shows its base address.
* `CommandLine.runCommand_hexify`: a run for raw code at an address given by its text.
-/

namespace EntryScan

theorem Report.field?_base (a : Analysis) (mode : String) (sectionName : Option String)
    (graph : Option CallGraph) :
    (document a mode sectionName graph).field? "base_address" =
      some (.text (Address.hexify a.base)) := by
  simp only [document, Value.field?, List.append_assoc]
  rfl

namespace CommandLine

theorem runCommand_hexify {tag : String} (htag : tag ∈ Arch.tags) {path : String}
    (hpath : classify path = .ok .argument) {desk : Desk} {code : List UInt8}
    (hread : desk.disk.read path = .ok code) (loggers : Log.Loggers) (choices : List Choice)
    (n : Int) :
    let s : Selection := choices.foldl Choice.select {}
    let ran := Session.runCommand { loggers := loggers }
      (path :: "--raw" :: "--arch" :: tag :: "--base-address" :: Address.hexify n ::
        choices.flatMap Choice.arguments) desk
    ∃ r doc,
      (Toolbox.analyze {} code (n % 2 ^ 64) tag (some s.inSectionOnly)).outcome.1 = .ok r ∧
      (Report.build r s.mode none s.callgraph).outcome.1 = .ok doc ∧
      doc.field? "base_address" = some (.text (Address.hexify n)) ∧
      ran.1 = .ok 0 ∧ ran.2.2.stdout = desk.stdout ++ (doc.toJson s.pretty ++ "\n") := by
  intro s ran
  obtain ⟨arch, harch⟩ := Arch.parse?_of_mem_tags htag
  let r := Analysis.found .standard arch code (n % 2 ^ 64) s.inSectionOnly
  have hrun := runCommand_report loggers (Options.parse_raw hpath htag (classify_hexify n) choices)
    rfl (check_raw _ _ _ _) rfl rfl rfl rfl hread (takes_hexify harch code n path s)
  have hanalyze : (Toolbox.analyze {} code (n % 2 ^ 64) tag
      (some s.inSectionOnly)).outcome.1 = .ok r := (Toolbox.analyze_returns harch _ _ _).outcome
  have hbuild := (Report.build_returns_document r s.mode none s.callgraph).outcome
  refine ⟨r, _, hanalyze, hbuild, ?_, hrun.1, hrun.2⟩
  rw [Report.field?_base]
  show some (Value.text (Address.hexify (n % 2 ^ 64))) = _
  rw [← Address.wrap_eq_emod, Address.hexify_wrap]

/-- **The text of an address loses nothing.** For every integer it is read back as the integer modulo
`2 ^ 64`. So two integers have one text exactly if they are congruent, the text of what is read is
the text that was read, and any text that is read can be replaced by the text of its value. As the
base address of raw code it puts the code where it says: the run ends with 0 and reports on the code
at that address, and its report shows the same text again. -/
theorem address_round_trip :
    (∀ n : Int, Address.parse (Address.hexify n) = .ok (n % 2 ^ 64)) ∧
    (∀ m n : Int, Address.hexify m = Address.hexify n ↔ m ≡ n [ZMOD 2 ^ 64]) ∧
    (∀ n : Int, ∃ v, Address.parse (Address.hexify n) = .ok v ∧
      Address.hexify v = Address.hexify n) ∧
    (∀ (text : String) (v : Int), Address.parse text = .ok v →
      Address.parse (Address.hexify v) = .ok v) ∧
    ∀ tag ∈ Arch.tags, ∀ path : String, classify path = .ok .argument →
      ∀ (desk : Desk) (code : List UInt8), desk.disk.read path = .ok code →
      ∀ (loggers : Log.Loggers) (choices : List Choice) (n : Int),
        let s : Selection := choices.foldl Choice.select {}
        let ran := Session.runCommand { loggers := loggers }
          (path :: "--raw" :: "--arch" :: tag :: "--base-address" :: Address.hexify n ::
            choices.flatMap Choice.arguments) desk
        ∃ r doc,
          (Toolbox.analyze {} code (n % 2 ^ 64) tag (some s.inSectionOnly)).outcome.1 = .ok r ∧
          (Report.build r s.mode none s.callgraph).outcome.1 = .ok doc ∧
          doc.field? "base_address" = some (.text (Address.hexify n)) ∧
          ran.1 = .ok 0 ∧ ran.2.2.stdout = desk.stdout ++ (doc.toJson s.pretty ++ "\n") := by
  refine ⟨?_, ?_, ?_, ?_, ?_⟩
  · intro n
    rw [Address.parse_hexify, Address.wrap_eq_emod]
  · intro m n
    rw [Address.hexify_eq_iff, Address.wrap_eq_emod, Address.wrap_eq_emod, Int.ModEq]
  · intro n
    exact ⟨Address.wrap n, Address.parse_hexify n, Address.hexify_wrap n⟩
  · intro text v h
    rw [Address.parse_hexify, Address.wrap_of_parse h]
  · intro tag htag path hpath desk code hread loggers choices n
    exact runCommand_hexify htag hpath hread loggers choices n

/-- Below zero: `-1` is shown as the last address, and a run that is given this text reports on code
there. A number with a sign and an underscore is shown in a plainer way, and means the same. -/
theorem address_round_trip_below_zero :
    let desk : Desk := { disk := ⟨[("code", [0x55, 0xc3])]⟩, time := "" }
    let choices : List Choice := [.pretty]
    let ran := Session.runCommand {}
      ("code" :: "--raw" :: "--arch" :: "x64" :: "--base-address" :: Address.hexify (-1) ::
        choices.flatMap Choice.arguments) desk
    Address.parse " +0X_1_0" = .ok 16 ∧ Address.parse (Address.hexify 16) = .ok 16 ∧
      Address.parse (Address.hexify (-1)) = .ok 0xffffffffffffffff ∧
      ran.1 = .ok 0 ∧ ∃ doc : Value,
        doc.field? "base_address" = some (.text "0xffffffffffffffff") ∧
        ran.2.2.stdout = "" ++ (doc.toJson true ++ "\n") := by
  intro desk choices
  obtain ⟨hparse, -, -, hgiven, hrun⟩ := address_round_trip
  have htag : "x64" ∈ Arch.tags := List.mem_mergeSort.mpr (by decide)
  have hread : desk.disk.read "code" = .ok [0x55, 0xc3] := by decide +kernel
  have htext : Address.parse " +0X_1_0" = .ok 16 := by decide +kernel
  have htop : Address.hexify (-1) = "0xffffffffffffffff" := by decide +kernel
  have hran := hrun "x64" htag "code" (by decide) desk _ hread {} choices (-1)
  -- the run is not evaluated
  dsimp only at hran ⊢
  generalize Session.runCommand {} ("code" :: _) desk = ran at hran ⊢
  obtain ⟨r, doc, -, -, hbase, hcode, hout⟩ := hran
  exact ⟨htext, hgiven _ 16 htext, hparse (-1), hcode, doc, htop ▸ hbase, hout⟩

end CommandLine
end EntryScan
