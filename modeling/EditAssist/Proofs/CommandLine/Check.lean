import EditAssist.CommandLine
import EditAssist.Proofs.Diagnostic.Order
import EditAssist.Proofs.Highlighter.Transparency

/-! Checking a file and highlighting it agree. Arguments that can be carried out are settings one
after another, so a request to check can be put between any two of them. Whoever asks for
diagnostics, the options or the configuration, the findings are the same, and what else is printed
stands before them. -/
namespace EditAssist.CommandLine
open Text

/-- What an argument can ask for. -/
inductive Setting where
  | check
  | verbose
  | noColor
  | language (l : Language)
  | path (p : List Char)

namespace Setting

def apply (o : Options) : Setting → Options
  | check => { o with check := true }
  | verbose => { o with verbose := true }
  | noColor => { o with noColor := true }
  | language l => { o with language := some l }
  | path p => { o with path := some p }

/-- The arguments that a setting is written as. -/
inductive Written : Setting → List (List Char) → Prop where
  | check {arg} (h : String.ofList arg ∈ ["--check", "-c"]) : Written check [arg]
  | verbose {arg} (h : String.ofList arg ∈ ["--verbose", "-v"]) : Written verbose [arg]
  | noColor {arg} (h : String.ofList arg = "--no-color") : Written noColor [arg]
  | language {arg name l} (h : String.ofList arg ∈ ["--language", "-l"])
      (hl : Language.ofName? name = some l) : Written (language l) [arg, name]
  | path {arg} (h : arg.head? ≠ some '-') : Written (path arg) [arg]

lemma Written.request_append {s : Setting} {group : List (List Char)} (hs : s.Written group)
    (o : Options) (args : List (List Char)) :
    request o (group ++ args) = request (s.apply o) args := by
  rw [request.eq_def]
  cases hs with
  | check h =>
    rcases List.mem_pair.mp h with h | h
    all_goals simp [h, apply]
  | verbose h =>
    rcases List.mem_pair.mp h with h | h
    all_goals simp [h, apply]
  | noColor h => simp [h, apply]
  | language h hl =>
    rcases List.mem_pair.mp h with h | h
    all_goals simp [h, hl, apply]
  | @path arg h =>
    -- no option is spelled without the dash
    have hne (name : String) (hname : name.toList.head? = some '-') : String.ofList arg ≠ name := by
      rintro rfl
      exact h (by simpa using hname)
    rw [List.singleton_append]
    dsimp only
    split
    case h_12 => rw [if_neg h, apply]
    all_goals exact absurd ‹String.ofList arg = _› (hne _ rfl)

end Setting

/-- Arguments as settings, from left to right. -/
inductive Reads : List (List Char) → List Setting → Prop where
  | nil : Reads [] []
  | cons {s group args ss} (hs : s.Written group) (hargs : Reads args ss) :
      Reads (group ++ args) (s :: ss)

/-- What comes behind settings is read as if they had been there from the start. -/
lemma Reads.request_append {pre : List (List Char)} {ss : List Setting} (h : Reads pre ss)
    (o : Options) (post : List (List Char)) :
    request o (pre ++ post) = request (ss.foldl Setting.apply o) post := by
  induction h generalizing o with
  | nil => rfl
  | cons hs _ ih => rw [List.append_assoc, hs.request_append, ih, List.foldl_cons]

lemma exists_reads_append {s : Setting} {group args : List (List Char)} {o o' : Options}
    (hs : s.Written group) (h : ∃ ss, Reads args ss ∧ ss.foldl Setting.apply (s.apply o) = o') :
    ∃ ss, Reads (group ++ args) ss ∧ ss.foldl Setting.apply o = o' := by
  obtain ⟨ss,hss,ho⟩ := h
  exact ⟨s :: ss,.cons hs hss,ho⟩

/-- Arguments that can be carried out are settings, applied from left to right. -/
theorem exists_reads_of_request {o o' : Options} {args : List (List Char)}
    (h : request o args = .ok (.run o')) :
    ∃ ss, Reads args ss ∧ ss.foldl Setting.apply o = o' := by
  fun_induction request o args with
  | case1 o => exact ⟨[],.nil,by simpa using h⟩
  | case6 o arg args harg ih | case7 o arg args harg ih =>
    exact exists_reads_append (.check (by simp [harg])) (ih h)
  | case8 o arg args harg ih | case9 o arg args harg ih =>
    exact exists_reads_append (.verbose (by simp [harg])) (ih h)
  | case10 o arg args harg ih => exact exists_reads_append (.noColor harg) (ih h)
  | case13 o arg harg name args l hl ih | case16 o arg harg name args l hl ih =>
    exact exists_reads_append (.language (by simp [harg]) hl) (ih h)
  | case18 o arg args harg _ _ _ _ _ _ _ _ _ _ _ ih =>
    exact exists_reads_append (.path harg) (ih h)
  -- what is left is help, the version or a failure
  | _ => simp at h

lemma Setting.apply_check (o : Options) (s : Setting) :
    s.apply { o with check := true } = { s.apply o with check := true } := by
  cases s <;> rfl

lemma foldl_apply_check (o : Options) (ss : List Setting) :
    ss.foldl Setting.apply { o with check := true } =
      { ss.foldl Setting.apply o with check := true } :=
  List.foldl_hom (fun o : Options => { o with check := true }) Setting.apply_check

/-- A request to check can be put in between settings, and changes nothing else. -/
theorem request_insert_check {pre post : List (List Char)} {flag : List Char} {o o₁ o₂ : Options}
    (hpre : request o pre = .ok (.run o₁)) (hargs : request o (pre ++ post) = .ok (.run o₂))
    (hflag : Setting.check.Written [flag]) :
    request o (pre ++ flag :: post) = .ok (.run { o₂ with check := true }) := by
  obtain ⟨ss,hss,rfl⟩ := exists_reads_of_request hpre
  rw [hss.request_append] at hargs
  obtain ⟨ts,hts,rfl⟩ := exists_reads_of_request hargs
  calc request o (pre ++ flag :: post)
    _ = request (ss.foldl Setting.apply o) ([flag] ++ post) := hss.request_append o _
    _ = request { ss.foldl Setting.apply o with check := true } (post ++ []) := by
        rw [hflag.request_append, List.append_nil]
        rfl
    _ = request (ts.foldl Setting.apply { ss.foldl Setting.apply o with check := true }) [] :=
        hts.request_append _ _
    _ = _ := by
        rw [foldl_apply_check]
        rfl

lemma run_eq_runOn {w : World} {args : List (List Char)} {o : Options} {path : List Char}
    (h : request {} args = .ok (.run o)) (hpath : o.path = some path) :
    run w args = runOn w o path := by
  rw [run, h]
  dsimp only
  rw [hpath]

/-- The catalog that the configuration asks for. -/
def World.catalog (w : World) : Catalog :=
  (Catalog.Source.ofPath (loadConfig w.read w.home).catalogPath).load w.read

/-- The language of a text: the one asked for, or else the one it looks like. -/
def Options.languageOf (o : Options) (path text : List Char) : Language :=
  o.language.getD (Language.detect path text)

def Options.color (o : Options) (w : World) : Bool := !o.noColor && !w.noColor

/-- What there is to say on a text. -/
def analysis (w : World) (o : Options) (path text : List Char) : List Diagnostic :=
  w.catalog.analyze (o.languageOf path text) text

/-- A text in its colours, on the backgrounds of its diagnostics. -/
def rendered (w : World) (o : Options) (path text : List Char) : List Char :=
  let lang := o.languageOf path text
  Screen.buffer (o.color w) (overlays text (analysis w o path text)) text
    (Token.tokenize lang (w.catalog.keywords lang) text)

/-- Whether the options or the configuration ask for diagnostics, the highlighter is the same. -/
lemma highlighter_eq_start {check : Bool} {config : Config}
    (hen : (check || config.diagnostics) = true) :
    (if check then (Highlighter.ofConfig config).enable else Highlighter.ofConfig config) =
      Highlighter.start ⟨.ofPath config.catalogPath, none⟩ true := by
  cases check with
  | true => rfl
  | false =>
    rw [if_neg Bool.false_ne_true, Highlighter.ofConfig, show config.diagnostics = true from hen]
    rfl

section RunOn
variable {w : World} {o : Options} {path : List Char} {content : List UInt8}

lemma runOn_of_read (hread : w.read path = .ok content)
    (hen : (o.check || (loadConfig w.read w.home).diagnostics) = true) :
    let text := decodeLossy content
    let ds := analysis w o path text
    runOn w o path =
      ⟨if o.check && ds.any (·.severity = .error) then 1 else 0,
        (if o.check then [] else rendered w o path text) ++
          ((if !o.check && !ds.isEmpty then ['\n'] else []) ++ findings (o.color w) path text ds),
        none⟩ := by
  intro text ds
  let h := Highlighter.start ⟨.ofPath (loadConfig w.read w.home).catalogPath, none⟩ true
  let lang := o.languageOf path text
  let r := h.highlight w.read lang text
  have htokens : r.1 = Token.tokenize lang (w.catalog.keywords lang) text :=
    (Highlighter.coherent_start _ true).tokens_highlight w.read lang text
  have hds : r.2.diagnostics = ds := h.diagnostics_highlight w.read lang text
  have hos : r.2.overlays = overlays text ds := by
    rw [Highlighter.overlays, h.lastText_highlight, hds]
  have henabled : r.2.diagnosticsEnabled = true :=
    h.diagnosticsEnabled_step (.highlight w.read lang text)
  calc runOn w o path
    _ = ⟨if o.check && r.2.diagnostics.any (·.severity = .error) then 1 else 0,
        present (o.color w) o.check path text r.2 r.1, none⟩ := by
      rw [runOn, hread]
      dsimp only
      rw [highlighter_eq_start hen]
      rfl
    _ = _ := by
      rw [present, hds, hos, htokens, if_pos henabled]
      rfl

lemma runOn_check (hread : w.read path = .ok content) :
    let text := decodeLossy content
    let ds := analysis w o path text
    runOn w { o with check := true } path =
      ⟨if ∃ d ∈ ds, d.severity = .error then 1 else 0, findings (o.color w) path text ds, none⟩ := by
  intro text ds
  calc runOn w { o with check := true } path
    _ = ⟨if ds.any (·.severity = .error) then 1 else 0, findings (o.color w) path text ds, none⟩ :=
      runOn_of_read hread rfl
    _ = _ := by simp only [List.any_eq_true, decide_eq_true_eq]

lemma runOn_plain (hread : w.read path = .ok content) (hcheck : o.check = false)
    (hen : (loadConfig w.read w.home).diagnostics = true) :
    let text := decodeLossy content
    let ds := analysis w o path text
    runOn w o path =
      ⟨0, rendered w o path text ++ (if ds = [] then [] else ['\n']) ++
        findings (o.color w) path text ds, none⟩ := by
  intro text ds
  rw [runOn_of_read hread (by rw [hen, Bool.or_true])]
  simp [hcheck, ds, text]

end RunOn

lemma errors_isPrefix_summary (ds : List Diagnostic) :
    (toString (ds.countP (·.severity = .error)) ++ " error(s), ").toList <+: Screen.summary ds := by
  simp only [Screen.summary, String.toList_append, List.append_assoc]
  exact (List.prefix_append_right_inj _).mpr (List.prefix_append _ _)

/-- To check a file is to say the same of it with less around it. Put among the other arguments, the
request prints a report for each diagnostic of the text and then the summary, whatever the
configuration says, and fails exactly if one of them is an error, which the summary counts. Without
it, if the configuration enables diagnostics, the same comes after the text in its colours and a
blank line, which is left out if there are no diagnostics, and nothing fails. -/
theorem run_check_agrees (w : World) {pre post : List (List Char)} {flag path : List Char}
    {content : List UInt8} {o o₁ : Options} (hpre : request {} pre = .ok (.run o₁))
    (hargs : request {} (pre ++ post) = .ok (.run o))
    (hflag : flag ∈ ["--check".toList, "-c".toList]) (hpath : o.path = some path)
    (hread : w.read path = .ok content) :
    let text := decodeLossy content
    let ds := analysis w o path text
    let errors := ds.countP (·.severity = .error)
    let checked := run w (pre ++ flag :: post)
    let plain := run w (pre ++ post)
    checked.output = ds.flatMap (Screen.report (o.color w) path text (LineIndex.ofText text)) ++
        Screen.summary ds ∧
    checked.code = (if ∃ d ∈ ds, d.severity = .error then 1 else 0) ∧ checked.failure = none ∧
    (checked.code = 1 ↔ 0 < errors) ∧
    (toString errors ++ " error(s), ").toList <+: Screen.summary ds ∧
    (o.check = false → (loadConfig w.read w.home).diagnostics = true →
      plain.output = rendered w o path text ++ (if ds = [] then [] else ['\n']) ++ checked.output ∧
      plain.code = 0 ∧ plain.failure = none) := by
  intro text ds errors checked plain
  have hwritten : Setting.check.Written [flag] := by
    refine .check ?_
    rcases List.mem_pair.mp hflag with rfl | rfl
    all_goals simp
  have hchecked : checked =
      ⟨if ∃ d ∈ ds, d.severity = .error then 1 else 0, findings (o.color w) path text ds, none⟩ :=
    (run_eq_runOn (request_insert_check hpre hargs hwritten) hpath).trans (runOn_check hread)
  have herrors : (∃ d ∈ ds, d.severity = .error) ↔ 0 < errors := by
    simp [errors, List.countP_pos_iff]
  refine ⟨by rw [hchecked, findings],by rw [hchecked],by rw [hchecked],?_,
    errors_isPrefix_summary ds,fun hcheck hen => ?_⟩
  · rw [hchecked, ← herrors]
    simp
  · have hplain : plain = ⟨0, rendered w o path text ++ (if ds = [] then [] else ['\n']) ++
        findings (o.color w) path text ds, none⟩ :=
      (run_eq_runOn hargs hpath).trans (runOn_plain hread hcheck hen)
    exact ⟨by rw [hplain, hchecked],by rw [hplain],by rw [hplain]⟩

/-- A comment that does not end is an error, in a file whose language is given. -/
theorem run_check_agrees_unclosed :
    let w : World := ⟨(Folder.write {} "a.txt".toList [47, 42]).read, none, true⟩
    let pre := ["-l".toList, "kotlin".toList]
    let post := ["a.txt".toList]
    let o : Options := { path := some "a.txt".toList, language := some .kotlin }
    let d : Diagnostic := ⟨1, 0, .error, "unclosed_comment", "Unclosed multi-line comment"⟩
    let text := ['/', '*']
    let checked := run w (pre ++ "-c".toList :: post)
    let plain := run w (pre ++ post)
    (request {} pre = .ok (.run { language := some .kotlin }) ∧
      request {} (pre ++ post) = .ok (.run o) ∧ w.read "a.txt".toList = .ok [47, 42] ∧
      (loadConfig w.read w.home).diagnostics = true) ∧
    checked.output = Screen.report false "a.txt".toList text (LineIndex.ofText text) d ++
      "1 error(s), 0 warning(s), 0 note(s)\n".toList ∧ checked.code = 1 ∧
    plain.output = ['/', '*', '\n', '\n'] ++ checked.output ∧ plain.code = 0 := by
  intro w pre post o d text checked plain
  have hpre : request {} pre = .ok (.run { language := some .kotlin }) := by decide
  have hargs : request {} (pre ++ post) = .ok (.run o) := by decide
  have hread : w.read "a.txt".toList = .ok [47, 42] := rfl
  have htext : decodeLossy [47, 42] = text := by decide +kernel
  have hds : analysis w o "a.txt".toList text = [d] := by
    have hfound : Analysis.found .kotlin (Language.keywords .kotlin) (Rule.builtin .kotlin) text =
        [d] := by
      decide +kernel
    rw [analysis, Catalog.analyze, Analysis.analyze_eq_arrange]
    exact (congrArg Diagnostic.arrange hfound).trans (Diagnostic.arrange_singleton d)
  have hrendered : rendered w o "a.txt".toList text = ['/', '*', '\n'] := by
    rw [rendered, hds]
    decide +kernel
  have hsummary : Screen.summary [d] = "1 error(s), 0 warning(s), 0 note(s)\n".toList := by
    decide +kernel
  obtain ⟨hout,hcode,-,-,-,hplain⟩ := run_check_agrees w hpre hargs
    (by decide : "-c".toList ∈ _) rfl hread
  obtain ⟨hpout,hpcode,-⟩ := hplain rfl rfl
  rw [htext, hds] at hout hcode
  rw [htext, hds, hrendered] at hpout
  rw [List.flatMap_singleton, hsummary] at hout
  exact ⟨⟨hpre,hargs,hread,rfl⟩,hout,hcode.trans (by decide),hpout,hpcode⟩

end EditAssist.CommandLine
