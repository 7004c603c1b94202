import EditAssist.Pattern.Program
import EditAssist.Proofs.Text.Boundary

/-! Where matches start. Whatever a program does, its threads remember where they set out, and they
set out between characters; so every start of a match is a boundary of the text. -/
namespace EditAssist.Pattern.Program
open Text

/-- Following threads makes up no new starts: what holds of the starts of all threads holds of those
that wait for a character and of the match found. -/
theorem follow_starts {P : ℕ → Prop} (p : Program) (before after : Option Char) (fuel : ℕ)
    (threads : List Thread) (visited : Array Bool) (waiting : List (Unicode.CodeSet × Thread))
    (ht : ∀ t ∈ threads, P t.start) (hw : ∀ w ∈ waiting, P w.2.start) :
    (∀ w ∈ (follow p before after fuel threads visited waiting).waiting, P w.2.start) ∧
      ∀ s ∈ (follow p before after fuel threads visited waiting).found, P s := by
  fun_induction follow p before after fuel threads visited waiting with
  | case1 => simpa using hw
  | case2 => simpa using hw
  | case3 n t ts visited waiting hv ih => exact ih (List.forall_mem_cons.mp ht).2 hw
  | case4 n t ts visited waiting hv visited' hc ih => exact ih (List.forall_mem_cons.mp ht).2 hw
  | case5 n t ts visited waiting hv visited' set next hc ih =>
    obtain ⟨h,hts⟩ := List.forall_mem_cons.mp ht
    exact ih hts (List.forall_mem_cons.mpr ⟨h,hw⟩)
  | case6 n t ts visited waiting hv visited' condition next hc hh ih =>
    obtain ⟨h,hts⟩ := List.forall_mem_cons.mp ht
    exact ih (List.forall_mem_cons.mpr ⟨h,hts⟩) hw
  | case7 n t ts visited waiting hv visited' condition next hc hh ih =>
    exact ih (List.forall_mem_cons.mp ht).2 hw
  | case8 n t ts visited waiting hv visited' a b hc ih =>
    obtain ⟨h,hts⟩ := List.forall_mem_cons.mp ht
    exact ih (List.forall_mem_cons.mpr ⟨h,List.forall_mem_cons.mpr ⟨h,hts⟩⟩) hw
  | case9 n t ts visited waiting hv hc =>
    refine ⟨by simpa using hw,?_⟩
    rintro s ⟨⟩
    exact (List.forall_mem_cons.mp ht).1

lemma frontier_starts {P : ℕ → Prop} (p : Program) (before after : Option Char)
    (threads : List Thread) (ht : ∀ t ∈ threads, P t.start) :
    (∀ w ∈ (p.frontier before after threads).waiting, P w.2.start) ∧
      ∀ s ∈ (p.frontier before after threads).found, P s :=
  follow_starts p before after _ threads _ [] ht (by simp)

lemma forall_start_admitted {P : ℕ → Prop} {threads : List Thread} {place offset : ℕ} (b : Bool)
    (ht : ∀ t ∈ threads, P t.start) (ho : P offset) :
    ∀ t ∈ if b = true then threads ++ [⟨place, offset⟩] else threads, P t.start := by
  intro t hm
  split_ifs at hm
  · rcases List.mem_append.mp hm with hm | hm
    · exact ht t hm
    · obtain rfl := List.mem_singleton.mp hm
      exact ho
  · exact ht t hm

lemma forall_start_improved {P : ℕ → Prop} {found : Option ℕ} {best : Option (ℕ × ℕ)} {offset : ℕ}
    (hf : ∀ s ∈ found, P s) (hb : ∀ m ∈ best, P m.1) :
    ∀ m ∈ (found.map fun s => (s, offset)) <|> best, P m.1 := by
  cases found with
  | none => exact hb
  | some s =>
    rintro m ⟨⟩
    exact hf s rfl

/-- A run over the rest of a text finds a match that starts at a boundary, if the threads and the
best match so far do. -/
theorem isBoundary_of_mem_run {text : List Char} (p : Program) (rest : List Char)
    (before : Option Char) (offset : ℕ) (threads : List Thread) (best : Option (ℕ × ℕ))
    (hr : dropBytes offset text = some rest) (ht : ∀ t ∈ threads, IsBoundary text t.start)
    (hb : ∀ m ∈ best, IsBoundary text m.1) :
    ∀ m ∈ p.run rest before offset threads best, IsBoundary text m.1 := by
  fun_induction run p rest before offset threads best with
  | case1 => exact hb
  | case2 before offset threads best threads' hne f best' =>
    have ha : ∀ t ∈ threads', IsBoundary text t.start :=
      forall_start_admitted best.isNone ht (isBoundary_of_dropBytes hr)
    exact forall_start_improved (frontier_starts p before _ threads' ha).2 hb
  | case3 before offset threads best threads' hne c rest f best' moved ih =>
    have ha : ∀ t ∈ threads', IsBoundary text t.start :=
      forall_start_admitted best.isNone ht (isBoundary_of_dropBytes hr)
    obtain ⟨hw,hf⟩ := frontier_starts p before (c :: rest).head? threads' ha
    apply ih (dropBytes_add_of_cons hr)
    · intro t hm
      obtain ⟨⟨set,u⟩,hu,he⟩ := List.mem_filterMap.mp hm
      simp only [Option.ite_none_right_eq_some, Option.some.injEq] at he
      obtain ⟨-,rfl⟩ := he
      exact hw _ hu
    · exact forall_start_improved hf hb

lemma isBoundary_of_search {text rest : List Char} {p : Program} {before : Option Char} {offset : ℕ}
    {m : ℕ × ℕ} (hr : dropBytes offset text = some rest)
    (hm : p.search before offset rest = some m) : IsBoundary text m.1 :=
  isBoundary_of_mem_run p rest before offset [] none hr (by simp) (by simp) m hm

lemma dropBytes_advance {text : List Char} (target : ℕ) (before : Option Char) (offset : ℕ)
    (rest : List Char) (hr : dropBytes offset text = some rest) :
    dropBytes (advance target before offset rest).2.1 text =
      some (advance target before offset rest).2.2 := by
  fun_induction advance target before offset rest with
  | case1 => exact hr
  | case2 => exact hr
  | case3 before offset c rest hlt ih => exact ih (dropBytes_add_of_cons hr)

theorem isBoundary_of_mem_startsFrom {text : List Char} (p : Program) (fuel : ℕ) (last : Option ℕ)
    (before : Option Char) (offset : ℕ) (rest : List Char) (hr : dropBytes offset text = some rest) :
    ∀ m ∈ p.startsFrom fuel last before offset rest, IsBoundary text m := by
  induction fuel generalizing last before offset rest with
  | zero => simp [startsFrom]
  | succ n ih =>
    have hgo : ∀ {before offset rest} {m : ℕ × ℕ}, dropBytes offset text = some rest →
        p.search before offset rest = some m →
        ∀ k ∈ m.1 :: p.startsFrom n (some m.2) (advance m.2 before offset rest).1
          (advance m.2 before offset rest).2.1 (advance m.2 before offset rest).2.2,
          IsBoundary text k := by
      intro before offset rest m hr hm k hk
      rcases List.mem_cons.mp hk with rfl | hk
      · exact isBoundary_of_search hr hm
      · exact ih _ _ _ _ (dropBytes_advance m.2 before offset rest hr) k hk
    unfold startsFrom
    split
    · simp
    · rename_i m hm
      split_ifs with hempty
      · cases rest with
        | nil => simp
        | cons c rest =>
          have hr' := dropBytes_add_of_cons hr
          dsimp only
          split
          · simp
          · rename_i m' hm'
            exact hgo hr' hm'
      · exact hgo hr hm

/-- Every match of a program in a text starts at a boundary of the text. -/
theorem isBoundary_of_mem_starts (p : Program) (text : List Char) :
    ∀ m ∈ p.starts text, IsBoundary text m :=
  isBoundary_of_mem_startsFrom p _ none none 0 text (dropBytes_eq_some_iff.mpr ⟨[],rfl,rfl⟩)

end EditAssist.Pattern.Program
