import EntryScan.Proofs.AddressText
import EntryScan.Proofs.ExitCode

/-!
# EntryScan.Proofs.RawAgreement

Code can be given raw or as a section of an image. Both ways lead to the same report, but for the
name of the section.
-/

namespace EntryScan

/-- The name of the section is one field of a report, and all else is the same without it. -/
theorem Report.document_section (a : Analysis) (mode : String) (graph : Option CallGraph) :
    ∃ before after, "section" ∉ (before ++ after).map (·.1) ∧
      document a mode none graph = .object (before ++ after) ∧
      ∀ name, name ≠ "" → document a mode (some name) graph =
        .object (before ++ ("section", .text name) :: after) := by
  refine ⟨_, _, ?_, by simp only [document, List.append_assoc]; rfl, fun name hname => ?_⟩
  · cases graph <;> cases shows mode "prologues" <;> cases shows mode "call-sites" <;>
      cases shows mode "candidates" <;> simp
  · have hpresent : name.isEmpty = false := by simpa using hname
    simp [document, hpresent]

namespace CommandLine

open Elf Elf.Blueprint

variable {b : Blueprint} {arch : Arch}

theorem takes_section (hfits : b.Fits) (hplain : Plain b.name) (hempty : b.name ≠ "")
    (htable : b.name ≠ tableName) (hsize : b.size = b.code.length)
    (hmachine : b.machine = 62 ∧ arch = .amd64 ∨ b.machine = 183 ∧ arch = .arm64) (path : String)
    (s : Selection) :
    ((Options.forSection path b.name).selecting s).Takes b.image
      ⟨b.code, b.address.toNat, arch, some b.name⟩ := by
  let img : Image := { bytes := b.image, onDisk := true }
  have hroom := b.room_for_code
  have hlength := hfits.length
  have hoffset : img.checkOffset 64 = .ok () :=
    Image.checkOffset_of_le (show 64 ≤ b.image.length by omega) hfits.length
  have hbytes : img.bytes = b.image := rfl
  have hcode : (b.image.drop 64).take b.code.length = b.code := take_code hbytes
  have hload := load_code (c := {}) hfits hplain htable hempty hmachine rfl hbytes hoffset
    (Image.checkSize_of_le (show b.size ≤ b.image.length by omega) (by omega))
  rw [if_neg (by omega), hsize, hcode] at hload
  exact ⟨b.name, hload, rfl⟩

theorem takes_hexify {tag : String} (harch : Arch.parse? tag = some arch) (code : List UInt8)
    (n : Int) (path : String) (s : Selection) :
    ((Options.forRaw path tag (Address.hexify n)).selecting s).Takes code
      ⟨code, n % 2 ^ 64, arch, none⟩ := by
  have hparse : Address.parse (Address.hexify n) = .ok (n % 2 ^ 64) := by
    rw [Address.parse_hexify, Address.wrap_eq_emod]
  exact ⟨rfl, hparse, (Option.bind_some tag Arch.parse?).trans harch, rfl⟩

theorem takes_raw {tag : String} (harch : Arch.parse? tag = some arch) (code : List UInt8)
    (address : UInt64) (path : String) (s : Selection) :
    ((Options.forRaw path tag (Address.hexify address.toNat)).selecting s).Takes code
      ⟨code, address.toNat, arch, none⟩ := by
  have hwrap : (address.toNat : Int) % 2 ^ 64 = address.toNat := by
    have hlt := address.toNat_lt
    omega
  have htakes := takes_hexify harch code address.toNat path s
  rwa [hwrap] at htakes

/-- A run that reads its material and has neither a log file nor an output file reports on the
terminal. -/
theorem runCommand_report {argv : List String} {o : Options} {path : String} {desk : Desk}
    {bytes : List UInt8} {m : Material} (loggers : Log.Loggers)
    (hparse : Options.parse {} argv = .ok o) (hhelp : o.help = false) (hcheck : o.check = .ok ())
    (hpath : o.path = some path) (hlevel : o.logLevel.isSome) (hlog : o.logFile = none)
    (hout : o.output = none) (hread : desk.disk.read path = .ok bytes) (htakes : o.Takes bytes m) :
    let ran := Session.runCommand { loggers := loggers } argv desk
    let a := Analysis.found .standard m.arch m.code m.base o.inSectionOnly
    let doc := Report.document a o.mode m.sectionName
      (if o.callgraph then some (.build a.candidates a.callSites false) else none)
    ran.1 = .ok 0 ∧ ran.2.2.stdout = desk.stdout ++ (doc.toJson o.pretty ++ "\n") := by
  intro ran a doc
  have hready : o.Ready desk none none := by
    refine ⟨Options.chosen_of_parse hparse, hlevel, ?_, ?_, .inl rfl⟩
    · rw [hlog]
      rfl
    · rw [hout]
      rfl
  have hdoc := (Report.build_returns_document a o.mode m.sectionName o.callgraph).outcome
  have hends := ends_report hready hread (examine_returns htakes).outcome hdoc
  rw [← run_eq_carryOut hparse hhelp hcheck hpath] at hends
  obtain ⟨_, s, after, heq, rfl, hreceives⟩ := hends.runCommand loggers
  have hafter : ran.2.2 = after := congrArg (·.2.2) heq
  refine ⟨congrArg (·.1) heq, ?_⟩
  rw [hafter, hreceives.stdout, hout]
  rfl

theorem classify_hexify (address : Int) : classify (Address.hexify address) = .ok .argument := by
  apply classify_argument
  rw [Address.hexify, Number.hexNat, String.toList_ofList, List.head?_cons]
  decide

theorem check_raw (path tag : String) (address : Int) (s : Selection) :
    ((Options.forRaw path tag (Address.hexify address)).selecting s).check = .ok () := by
  have hparse := Address.parse_hexify address
  simp only [Options.check, Options.selecting, Options.forRaw, hparse]
  rfl

/-- **Both ways to the code agree.** An image holds code in a section, whose name is not left out of
the request, and a file holds the code alone. The runs for the section and for the raw code at its
address, with any tag of the architecture and the same choices of what is reported, both end with 0.
Each writes one document. The two have the same fields in the same order, those of the report of the
analysis of the code, but that the one for the section has its name beside them. -/
theorem section_raw_agree (hfits : b.Fits) (hplain : Plain b.name) (hempty : b.name ≠ "")
    (htable : b.name ≠ ".shstrtab") (hopen : b.name ≠ "--") (hsize : b.size = b.code.length)
    (hmachine : b.machine = 62 ∧ arch = .amd64 ∨ b.machine = 183 ∧ arch = .arm64)
    {tag : String} (htag : tag ∈ Arch.tags) (harch : Arch.parse? tag = some arch)
    {path path' : String} (hpath : classify path = .ok .argument)
    (hpath' : classify path' = .ok .argument) {desk desk' : Desk}
    (hread : desk.disk.read path = .ok b.image) (hread' : desk'.disk.read path' = .ok b.code)
    (loggers loggers' : Log.Loggers) (choices : List Choice) :
    let arguments := choices.flatMap Choice.arguments
    let s : Selection := choices.foldl Choice.select {}
    let image := Session.runCommand { loggers := loggers }
      (path :: ("--section=" ++ b.name) :: arguments) desk
    let raw := Session.runCommand { loggers := loggers' }
      (path' :: "--raw" :: "--arch" :: tag :: "--base-address" ::
        Address.hexify b.address.toNat :: arguments) desk'
    ∃ r before after,
      (Toolbox.analyze {} b.code b.address.toNat tag (some s.inSectionOnly)).outcome.1 = .ok r ∧
      (Report.build r s.mode none s.callgraph).outcome.1 = .ok (.object (before ++ after)) ∧
      "section" ∉ (before ++ after).map (·.1) ∧
      raw.1 = .ok 0 ∧
      raw.2.2.stdout = desk'.stdout ++ ((Value.object (before ++ after)).toJson s.pretty ++ "\n") ∧
      image.1 = .ok 0 ∧
      image.2.2.stdout = desk.stdout ++
        ((Value.object (before ++ ("section", .text b.name) :: after)).toJson s.pretty ++
          "\n") := by
  intro arguments s image raw
  let r := Analysis.found .standard arch b.code b.address.toNat s.inSectionOnly
  obtain ⟨before, after, hkeys, hnone, hsome⟩ := Report.document_section r s.mode
    (if s.callgraph then some (.build r.candidates r.callSites false) else none)
  have himage := runCommand_report loggers (Options.parse_section hpath hopen choices) rfl rfl rfl
    rfl rfl rfl hread (takes_section hfits hplain hempty htable hsize hmachine path s)
  have hraw := runCommand_report loggers' (Options.parse_raw hpath' htag (classify_hexify _) choices)
    rfl (check_raw _ _ _ _) rfl rfl rfl rfl hread' (takes_raw harch b.code b.address path' s)
  have hanalyze : (Toolbox.analyze {} b.code b.address.toNat tag
      (some s.inSectionOnly)).outcome.1 = .ok r := (Toolbox.analyze_returns harch _ _ _).outcome
  have hbuild := (Report.build_returns_document r s.mode none s.callgraph).outcome
  refine ⟨r, before, after, hanalyze, hnone ▸ hbuild, hkeys, hraw.1, ?_, himage.1, ?_⟩
  · rw [← hnone]
    exact hraw.2
  · rw [← hsome b.name hempty]
    exact himage.2

/-- A function at the last address, which is also an image's section: both runs with three choices
end with 0, and the name of the section is all that their reports differ in. -/
theorem section_raw_agree_at_top :
    let b : Blueprint := ⟨[0x55, 0xc3], 62, 0xffffffffffffffff, ".text", none⟩
    let desk : Desk := { disk := ⟨[("image", b.image), ("code", b.code)]⟩, time := "" }
    let choices : List Choice := [.pretty, .mode "all" (by decide), .callgraph]
    let image := Session.runCommand {}
      ("image" :: ("--section=" ++ b.name) :: choices.flatMap Choice.arguments) desk
    let raw := Session.runCommand {}
      ("code" :: "--raw" :: "--arch" :: "x86-64" :: "--base-address" ::
        Address.hexify b.address.toNat :: choices.flatMap Choice.arguments) desk
    image.1 = .ok 0 ∧ raw.1 = .ok 0 ∧ ∃ before after,
      image.2.2.stdout = "" ++
        ((Value.object (before ++ ("section", .text ".text") :: after)).toJson true ++ "\n") ∧
      raw.2.2.stdout = "" ++ ((Value.object (before ++ after)).toJson true ++ "\n") := by
  intro b desk choices
  have hlength : b.image.length = 280 := by decide +kernel
  have hfits : b.Fits := ⟨by rw [hlength]; decide, by decide⟩
  have hplain : Plain b.name := by decide
  have htag : "x86-64" ∈ Arch.tags := List.mem_mergeSort.mpr (by decide)
  have hread : desk.disk.read "image" = .ok b.image := by decide +kernel
  have hread' : desk.disk.read "code" = .ok b.code := by decide +kernel
  have hagree := section_raw_agree hfits hplain (show ".text" ≠ "" by decide)
    (show ".text" ≠ ".shstrtab" by decide) (show ".text" ≠ "--" by decide) rfl (.inl ⟨rfl, rfl⟩)
    htag rfl (show classify "image" = .ok .argument by decide)
    (show classify "code" = .ok .argument by decide) hread hread' {} {}
    choices
  -- neither run is evaluated
  dsimp only at hagree ⊢
  generalize Session.runCommand {} ("image" :: _) desk = image at hagree ⊢
  generalize Session.runCommand {} ("code" :: _) desk = raw at hagree ⊢
  obtain ⟨r, before, after, _, _, _, hraw, hrawText, himage, himageText⟩ := hagree
  exact ⟨himage, hraw, before, after, himageText, hrawText⟩

/-- A section whose name leaves the request open is not found, because the default is asked for in
its place. -/
theorem section_named_as_divider :
    let b : Blueprint := ⟨[0xc3], 62, 0, "--", none⟩
    let desk : Desk := { disk := ⟨[("image", b.image)]⟩, time := "" }
    b.Fits ∧ Plain b.name ∧
      (Session.runCommand {} ["image", "--section=--"] desk).1 = .ok 1 := by
  intro b desk
  have hlength : b.image.length = 272 := by decide +kernel
  have hfits : b.Fits := ⟨by rw [hlength]; decide, by decide⟩
  have hplain : Plain b.name := by decide
  let img : Image := { bytes := b.image, onDisk := true }
  have hbytes : img.bytes = b.image := rfl
  have hload : load {} img (some "") = .error (.noSection ".text") :=
    load_of_missing (read_fileHeader hfits rfl (holds_image hbytes).left)
      (archOf?_header (.inl ⟨rfl, rfl⟩)) (readAll_image hfits rfl hbytes hplain)
      (named?_other (show ".text" ≠ "" by decide) (show ".text" ≠ "--" by decide)
        (show ".text" ≠ ".shstrtab" by decide))
  have hparse : Options.parse {} ["image", "--section=--"] =
      .ok (Options.forSection "image" "") := by
    decide +kernel
  have hready : (Options.forSection "image" "").Ready desk none none :=
    ⟨Options.chosen_of_parse hparse, rfl, rfl, rfl, .inl rfl⟩
  have hread : desk.disk.read "image" = .ok b.image := by decide +kernel
  have hends := ends_fault hready hread (examine_error rfl hload) rfl
  rw [← run_eq_carryOut hparse rfl rfl rfl] at hends
  obtain ⟨code, s, after, heq, rfl, _⟩ := hends.runCommand {}
  exact ⟨hfits, hplain, congrArg (·.1) heq⟩

end CommandLine
end EntryScan
