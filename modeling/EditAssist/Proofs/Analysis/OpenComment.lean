import EditAssist.Proofs.Analysis.Comments

/-! The comment that the search by lines reports. Whatever the text, an opener stands at the place of
the report and nothing behind it closes a comment, in its line or in a later one; and with `*/` behind
the text there is no report. Both are shown for what is left of a text in each of the three states of
the search, in one induction along the text. -/
namespace EditAssist.Text

lemma occursIn_iff_isInfix {part t : List Char} : occursIn part t = true ↔ part <:+: t := by
  induction t with
  | nil => simp [occursIn]
  | cons c t ih =>
    rw [occursIn, Bool.or_eq_true, List.isPrefixOf_iff_prefix, ih, List.infix_cons_iff]

lemma firstLine_append_of_mem {r : List Char} (h : '\n' ∈ r) (w : List Char) :
    firstLine (r ++ w) = firstLine r := by
  obtain ⟨u,v,rfl,hu⟩ := List.eq_append_cons_of_mem h
  have hall : ∀ c ∈ u, (c != '\n') = true := by
    intro c hc
    simpa using ne_of_mem_of_not_mem hc hu
  rw [firstLine, firstLine, List.append_assoc, List.takeWhile_append_of_pos hall,
    List.takeWhile_append_of_pos hall]
  rfl

lemma firstLine_isPrefix_append (r w : List Char) : firstLine r <+: firstLine (r ++ w) := by
  induction r with
  | nil => exact List.nil_prefix
  | cons c r ih =>
    rw [List.cons_append]
    by_cases hc : c = '\n'
    · subst hc
      exact List.nil_prefix
    · rw [firstLine_cons hc, firstLine_cons hc]
      exact (List.prefix_cons_inj c).mpr ih

/-- A text ends with its last line, which begins behind a newline if not with the text. -/
lemma exists_append_lastLine (a : List Char) :
    ∃ x, a = x ++ lastLine a ∧ (x = [] ∨ x.getLast? = some '\n') ∧
      x.count '\n' = a.count '\n' ∧ '\n' ∉ lastLine a := by
  induction a using List.reverseRecOn with
  | nil => exact ⟨[],rfl,.inl rfl,rfl,List.not_mem_nil⟩
  | append_singleton a c ih =>
    obtain ⟨x,ha,hx,hcount,hlast⟩ := ih
    rw [lastLine_concat]
    split_ifs with hc
    · subst hc
      exact ⟨a ++ ['\n'],by simp,.inr (by simp),rfl,List.not_mem_nil⟩
    · refine ⟨x,?_,hx,?_,?_⟩
      · rw [← List.append_assoc, ← ha]
      · rw [hcount, List.count_append, List.count_singleton, if_neg (by simpa using hc), Nat.add_zero]
      · simpa [hlast] using Ne.symm hc

end EditAssist.Text

namespace EditAssist.Analysis
open Text

section Search
variable {a r w : List Char}

/-- What is left of a text behind `a` opens a comment at a place and does not close it. -/
def OpensAt (a r : List Char) (place : ℕ × ℕ) : Prop :=
  ∃ x y, r = x ++ '/' :: '*' :: y ∧ placeBehind (a ++ x) = place ∧ ¬ ['*', '/'] <:+: y

lemma OpensAt.append {place : ℕ × ℕ} (h : OpensAt (a ++ w) r place) : OpensAt a (w ++ r) place := by
  obtain ⟨x,y,rfl,hplace,hy⟩ := h
  exact ⟨w ++ x,y,(List.append_assoc w x _).symm,by rwa [← List.append_assoc],hy⟩

/-- A search through `r` reports only places that are `right`, and nothing once a `*/` is behind. -/
def Reports (search : List Char → Option (ℕ × ℕ)) (r : List Char) (right : ℕ × ℕ → Prop) : Prop :=
  ∀ place, search r = some place → right place ∧ search (r ++ ['*', '/']) = none

lemma Reports.of_none {search : List Char → Option (ℕ × ℕ)} {right : ℕ × ℕ → Prop}
    (h : search r = none) : Reports search r right := by
  intro place hplace
  rw [h] at hplace
  contradiction

/-- A search that goes on behind `w` with another is as good as that. -/
lemma Reports.append {search next : List Char → Option (ℕ × ℕ)} {right right' : ℕ × ℕ → Prop}
    (h : Reports next r right) (hr : search (w ++ r) = next r)
    (hmend : search (w ++ r ++ ['*', '/']) = next (r ++ ['*', '/']))
    (himp : ∀ place, right place → right' place) : Reports search (w ++ r) right' := by
  intro place hplace
  rw [hr] at hplace
  rw [hmend]
  exact (h place hplace).imp_left (himp place)

/-- The places that are right inside a comment opened at `place`: its own if nothing closes it. -/
def StaysOpen (place : ℕ × ℕ) (a r : List Char) (place' : ℕ × ℕ) : Prop :=
  (place' = place ∧ ¬ ['*', '/'] <:+: r) ∨ OpensAt a r place'

/-- An opener takes the search into the comment, or past the line if the comment ends in it. -/
lemma reports_opener (hdone : Reports (doneAt (a ++ ['/', '*'])) r (OpensAt (a ++ ['/', '*']) r))
    (hopen : Reports (openAt (placeBehind a) (a ++ ['/', '*'])) r
      (StaysOpen (placeBehind a) (a ++ ['/', '*']) r)) :
    Reports (codeAt a) ('/' :: '*' :: r) (OpensAt a ('/' :: '*' :: r)) := by
  intro place hplace
  rw [codeAt_opener] at hplace
  rw [List.cons_append, List.cons_append, codeAt_opener]
  by_cases hline : occursIn ['*', '/'] (firstLine r) = true
  · have hline' : occursIn ['*', '/'] (firstLine (r ++ ['*', '/'])) = true := by
      rw [occursIn_iff_isInfix] at hline ⊢
      exact hline.trans (firstLine_isPrefix_append r _).isInfix
    rw [if_pos hline] at hplace
    rw [if_pos hline']
    exact (hdone place hplace).imp_left OpensAt.append
  · rw [if_neg hline] at hplace
    obtain ⟨hright,hmend⟩ := hopen place hplace
    refine ⟨?_,?_⟩
    · rcases hright with ⟨rfl,hr⟩ | hright
      · exact ⟨[],r,rfl,by rw [List.append_nil],hr⟩
      · exact hright.append
    · split_ifs with hline'
      · -- the `*/` behind the text is in the line of the opener, which is the last one
        have hn : '\n' ∉ r ++ ['*', '/'] := by
          intro hn
          have hr : '\n' ∈ r := by simpa using hn
          rw [firstLine_append_of_mem hr] at hline'
          exact hline hline'
        rw [← List.append_nil (r ++ ['*', '/']), doneAt_append hn]
        rfl
      · exact hmend

/-- In every state, the search through what is left of a text reports right places only, and a `*/`
behind the text leaves nothing to report. -/
theorem reports_search (r a : List Char) :
    Reports (codeAt a) r (OpensAt a r) ∧ Reports (doneAt a) r (OpensAt a r) ∧
      ∀ place, Reports (openAt place a) r (StaysOpen place a r) := by
  -- an opener and a closer take the search two characters on, every other character one
  induction r using List.twoStepInduction generalizing a with
  | nil =>
    refine ⟨.of_none rfl,.of_none rfl,?_⟩
    rintro place _ ⟨⟩
    exact ⟨.inl ⟨rfl,by decide⟩,openAt_closer place a []⟩
  | singleton c =>
    refine ⟨.of_none ?_,.of_none ?_,?_⟩
    · rw [codeAt_cons (by simp [List.cons_prefix_cons])]
      rfl
    · by_cases hc : c = '\n'
      · subst hc
        rw [doneAt_newline]
        rfl
      · rw [doneAt_cons hc]
        rfl
    · intro place place' hplace
      rw [openAt_cons (by simp [List.cons_prefix_cons])] at hplace
      obtain rfl : place = place' := Option.some.inj hplace
      refine ⟨.inl ⟨rfl,?_⟩,?_⟩
      · simp [List.infix_cons_iff, List.cons_prefix_cons]
      · rw [List.singleton_append, openAt_cons (by simp [List.cons_prefix_cons]), openAt_closer]
        rfl
  | cons_cons c d r ih ih' =>
    refine ⟨?_,?_,?_⟩
    · by_cases h : c = '/' ∧ d = '*'
      · obtain ⟨rfl,rfl⟩ := h
        obtain ⟨-,hdone,hopen⟩ := ih (a ++ ['/', '*'])
        exact reports_opener hdone (hopen _)
      · have hno : ∀ t, ¬ ['/', '*'] <+: c :: d :: t := by
          intro t
          simpa [List.cons_prefix_cons, eq_comm] using h
        obtain ⟨hcode,-⟩ := ih' d (a ++ [c])
        exact hcode.append (w := [c]) (codeAt_cons (hno _)) (codeAt_cons (hno _))
          (fun _ => OpensAt.append)
    · obtain ⟨hcode,hdone,-⟩ := ih' d (a ++ [c])
      by_cases hc : c = '\n'
      · subst hc
        exact hcode.append (w := ['\n']) doneAt_newline doneAt_newline (fun _ => OpensAt.append)
      · exact hdone.append (w := [c]) (doneAt_cons hc) (doneAt_cons hc) (fun _ => OpensAt.append)
    · intro place
      by_cases h : c = '*' ∧ d = '/'
      · obtain ⟨rfl,rfl⟩ := h
        obtain ⟨hcode,-⟩ := ih (a ++ ['*', '/'])
        exact hcode.append (w := ['*', '/']) (openAt_closer _ _ _) (openAt_closer _ _ _)
          (fun _ h => .inr h.append)
      · have hno : ∀ t, ¬ ['*', '/'] <+: c :: d :: t := by
          intro t
          simpa [List.cons_prefix_cons, eq_comm] using h
        obtain ⟨-,-,hopen⟩ := ih' d (a ++ [c])
        refine (hopen place).append (w := [c]) (openAt_cons (hno _)) (openAt_cons (hno _)) ?_
        rintro place' (⟨rfl,hr⟩ | hright)
        · refine .inl ⟨rfl,?_⟩
          rw [List.infix_cons_iff]
          exact not_or_intro (hno r) hr
        · exact .inr hright.append

end Search

/-- A report is right, and what it asks for mends the text. There is at most one; where it says, `/*`
stands behind `u` in the line that begins behind `x`, and no `*/` follows it in the text. -/
theorem commentDiagnostics_sound (text : List Char) :
    (commentDiagnostics text).length ≤ 1 ∧
    ∀ d ∈ commentDiagnostics text,
      (∃ x u y, text = x ++ u ++ '/' :: '*' :: y ∧ (x = [] ∨ x.getLast? = some '\n') ∧
        x.count '\n' + 1 = d.line ∧ '\n' ∉ u ∧ bytes u = d.column ∧ ¬ ['*', '/'] <:+: y) ∧
      commentDiagnostics (text ++ ['*', '/']) = [] := by
  obtain ⟨hreports,-⟩ := reports_search text []
  simp only [commentDiagnostics, openCommentFrom_eq_codeAt]
  cases hcode : codeAt [] text with
  | none => simp
  | some place =>
    obtain ⟨⟨a,y,htext,hplace,hy⟩,hmend⟩ := hreports place hcode
    obtain ⟨x,ha,hx,hcount,hlast⟩ := exists_append_lastLine a
    refine ⟨by simp,?_⟩
    intro d hd
    obtain rfl : d = ⟨place.1, place.2, .error, "unclosed_comment", "Unclosed multi-line comment"⟩ := by
      simpa using hd
    rw [hmend, ← hplace, List.nil_append]
    exact ⟨⟨x,lastLine a,y,by rw [← ha, htext],hx,by rw [hcount]; rfl,hlast,rfl,hy⟩,rfl⟩

/-- The star of an opener closes nothing with a slash behind it. -/
theorem commentDiagnostics_sound_overlapping :
    let text := ['*', '/', '*', '/', '\n', '/', '*']
    let d : Diagnostic := ⟨1, 1, .error, "unclosed_comment", "Unclosed multi-line comment"⟩
    d ∈ commentDiagnostics text ∧
    (∃ x u y, text = x ++ u ++ '/' :: '*' :: y ∧ (x = [] ∨ x.getLast? = some '\n') ∧
      x.count '\n' + 1 = 1 ∧ '\n' ∉ u ∧ bytes u = 1 ∧ ¬ ['*', '/'] <:+: y) ∧
    commentDiagnostics (text ++ ['*', '/']) = [] := by
  intro text d
  have hd : d ∈ commentDiagnostics text := by decide
  exact ⟨hd,(commentDiagnostics_sound text).2 d hd⟩

end EditAssist.Analysis
