import EditAssist.Token.Lexer
import Mathlib.Algebra.Ring.Parity
import Mathlib.Data.List.DropRight
import Mathlib.Data.List.Infix

/-! The lexical grammar: which piece at the start of a text is a token of it, and of which category.
The grammar says what a token opens with, how far it takes the text and what it is called, without a
word on how it is found. A text has at most one such piece, and a piece that leaves some of the text
stays one whatever is appended to the text. -/
namespace EditAssist.Token
open Unicode

/-- What opens a comment that runs to the end of the line. -/
def lineOpener : Language → List Char
  | .python => ['#']
  | _ => ['/', '/']

/-- A text that starts as tokens of a shape do. It may start as tokens of other shapes do as well. -/
def Shape.Opens (lang : Language) (t : List Char) : Shape → Prop
  | .lineComment => lineOpener lang <+: t
  | .blockComment => lang ≠ .python ∧ ['/', '*'] <+: t
  | .quoted => ∃ c ∈ t.head?, c = '"' ∨ c = '\''
  | .number => ∃ c ∈ t.head?, c.isDigit
  | .word => ∃ c ∈ t.head?, isAlphabetic c ∨ c = '_'
  | .operator => ∃ c ∈ t.head?, c ∈ "+-*/=<>!&|^%~".toList
  | .other => t ≠ []

/-- The place of a shape in the order of precedence. -/
def Shape.rank : Shape → ℕ
  | .lineComment => 0
  | .blockComment => 1
  | .quoted => 2
  | .number => 3
  | .word => 4
  | .operator => 5
  | .other => 6

/-- The shape that takes precedence at the start of a text. -/
def Shape.Leads (lang : Language) (t : List Char) (s : Shape) : Prop :=
  s.Opens lang t ∧ ∀ r : Shape, r.rank < s.rank → ¬ r.Opens lang t

/-- A longest piece `w` of characters of one kind, before `r`. -/
def Run (p : Char → Prop) (w r : List Char) : Prop :=
  (∀ c ∈ w, p c) ∧ ∀ c ∈ r.head?, ¬ p c

/-- A piece `w` that reaches through the first place before which the text satisfies `ends`, or
through the whole text if there is no such place; `r` is what follows. -/
def Through (ends : List Char → Prop) (w r : List Char) : Prop :=
  (∀ v, v <+: w → ends v → v = w) ∧ (ends w ∨ r = [])

/-- A text that ends in an odd number of backslashes, which escapes the next character. -/
def Escapes (t : List Char) : Prop := Odd (t.rtakeWhile (· = '\\')).length

/-- A text that ends in a quote which nothing escapes. -/
def EndsInQuote (q : Char) (t : List Char) : Prop := ∃ u, t = u ++ [q] ∧ ¬ Escapes u

/-- The piece `w` that a token of a shape takes, before `r`. -/
def Shape.Takes (w r : List Char) : Shape → Prop
  | .lineComment => Run (· ≠ '\n') w r
  | .blockComment => ∃ u, w = '/' :: '*' :: u ∧ Through (['*', '/'] <:+ ·) u r
  | .quoted => ∃ q u, w = q :: u ∧ Through (EndsInQuote q) u r
  | .number => Run (fun c => c.isDigit ∨ c ∈ ['.', 'f', 'L']) w r
  | .word => Run (fun c => isAlphanumeric c ∨ c = '_') w r
  | .operator | .other => w.length = 1

/-- The category of a word `w` before `r`. -/
inductive WordHas (keywords : List String) (w r : List Char) : Category → Prop
  | keyword : String.ofList w ∈ keywords → WordHas keywords w r .keyword
  | function : String.ofList w ∉ keywords → r.head? = some '(' → WordHas keywords w r .function
  | type : String.ofList w ∉ keywords → r.head? ≠ some '(' → (∃ c ∈ w.head?, isUppercase c) →
      WordHas keywords w r .type
  | normal : String.ofList w ∉ keywords → r.head? ≠ some '(' → (¬ ∃ c ∈ w.head?, isUppercase c) →
      WordHas keywords w r .normal

/-- The category of a token `w` of a shape, before `r`. -/
def Shape.Has (keywords : List String) (w r : List Char) (k : Category) : Shape → Prop
  | .lineComment | .blockComment => k = .comment
  | .quoted => k = .string
  | .number => k = .number
  | .word => WordHas keywords w r k
  | .operator => k = .operator
  | .other => k = .normal

/-- A piece `w` that is a token of category `k` at the start of the text `w ++ r`. -/
def Lexeme (lang : Language) (keywords : List String) (w r : List Char) (k : Category) : Prop :=
  ∃ s : Shape, s.Leads lang (w ++ r) ∧ s.Takes w r ∧ s.Has keywords w r k

section Unique
variable {w r w' r' : List Char}

lemma Shape.rank_injective : Function.Injective Shape.rank := by
  intro s s' h
  cases s <;> cases s' <;> first | rfl | contradiction

lemma Shape.Leads.unique {lang : Language} {t : List Char} {s s' : Shape} (h : s.Leads lang t)
    (h' : s'.Leads lang t) : s = s' := by
  apply Shape.rank_injective
  by_contra hne
  rcases Nat.lt_or_gt_of_ne hne with hlt | hlt
  · exact h'.2 s hlt h.1
  · exact h.2 s' hlt h'.1

lemma Run.eq_nil {p : Char → Prop} {x : List Char} (h : Run p w (x ++ r)) (h' : Run p (w ++ x) r) :
    x = [] := by
  cases x with
  | nil => rfl
  | cons c x =>
    have hc : p c := h'.1 c (by simp)
    exact absurd hc (h.2 c rfl)

lemma Through.eq_nil {ends : List Char → Prop} {x : List Char} (h : Through ends w (x ++ r))
    (h' : Through ends (w ++ x) r) : x = [] := by
  rcases h.2 with hw | hx
  · have he : w = w ++ x := h'.1 w (List.prefix_append w x) hw
    simpa using he
  · exact (List.append_eq_nil_iff.mp hx).1

/-- A piece that stops in one place only is the only one of its kind at the start of a text. -/
lemma eq_of_append_eq {Q : List Char → List Char → Prop}
    (hQ : ∀ {w x r}, Q w (x ++ r) → Q (w ++ x) r → x = []) (h : Q w r) (h' : Q w' r')
    (he : w ++ r = w' ++ r') : w = w' := by
  rcases List.append_eq_append_iff.mp he with ⟨x,rfl,rfl⟩ | ⟨x,rfl,rfl⟩
  · rw [hQ h h', List.append_nil]
  · rw [hQ h' h, List.append_nil]

lemma Run.unique {p : Char → Prop} (h : Run p w r) (h' : Run p w' r') (he : w ++ r = w' ++ r') :
    w = w' :=
  eq_of_append_eq Run.eq_nil h h' he

lemma Through.unique {ends : List Char → Prop} (h : Through ends w r) (h' : Through ends w' r')
    (he : w ++ r = w' ++ r') : w = w' :=
  eq_of_append_eq Through.eq_nil h h' he

lemma Shape.Takes.unique {s : Shape} (h : s.Takes w r) (h' : s.Takes w' r')
    (he : w ++ r = w' ++ r') : w = w' := by
  cases s with
  | lineComment => exact Run.unique h h' he
  | blockComment =>
    obtain ⟨u,rfl,hu⟩ := h
    obtain ⟨u',rfl,hu'⟩ := h'
    rw [hu.unique hu' (by simpa using he)]
  | quoted =>
    obtain ⟨q,u,rfl,hu⟩ := h
    obtain ⟨q',u',rfl,hu'⟩ := h'
    obtain ⟨rfl,hrest⟩ := List.cons.inj he
    rw [hu.unique hu' hrest]
  | number => exact Run.unique h h' he
  | word => exact Run.unique h h' he
  | operator => exact List.append_inj_left he (h.trans h'.symm)
  | other => exact List.append_inj_left he (h.trans h'.symm)

lemma WordHas.unique {keywords : List String} {k k' : Category} (h : WordHas keywords w r k)
    (h' : WordHas keywords w r k') : k = k' := by
  cases h <;> cases h' <;> first | rfl | contradiction

lemma Shape.Has.unique {keywords : List String} {s : Shape} {k k' : Category}
    (h : s.Has keywords w r k) (h' : s.Has keywords w r k') : k = k' := by
  cases s with
  | word => exact WordHas.unique h h'
  | _ => exact h.trans h'.symm

/-- A text starts with at most one token. -/
theorem Lexeme.unique {lang : Language} {keywords : List String} {k k' : Category}
    (h : Lexeme lang keywords w r k) (h' : Lexeme lang keywords w' r' k')
    (he : w ++ r = w' ++ r') : w = w' ∧ r = r' ∧ k = k' := by
  obtain ⟨s,hlead,htake,hhas⟩ := h
  obtain ⟨s',hlead',htake',hhas'⟩ := h'
  rw [← he] at hlead'
  obtain rfl := hlead.unique hlead'
  obtain rfl := htake.unique htake' he
  obtain rfl := List.append_cancel_left he
  exact ⟨rfl,rfl,hhas.unique hhas'⟩

end Unique

lemma Shape.Opens.ne_nil {lang : Language} {t : List Char} {s : Shape} (h : s.Opens lang t) :
    t ≠ [] := by
  rintro rfl
  cases s with
  | lineComment => cases lang <;> simp [Shape.Opens, lineOpener] at h
  | _ => simp [Shape.Opens] at h

/-- A token is not empty. -/
theorem Lexeme.ne_nil {lang : Language} {keywords : List String} {w r : List Char} {k : Category}
    (h : Lexeme lang keywords w r k) : w ≠ [] := by
  rintro rfl
  obtain ⟨s,⟨hopen,-⟩,htake,-⟩ := h
  rw [List.nil_append] at hopen
  cases s with
  | lineComment =>
    -- an empty comment would stop at the newline that it starts with
    cases r with
    | nil => exact hopen.ne_nil rfl
    | cons c r =>
      have hc : c = '\n' := by simpa using htake.2 c rfl
      subst hc
      cases lang <;> simp [Shape.Opens, lineOpener] at hopen
  | blockComment => obtain ⟨u,hu,-⟩ := htake; cases hu
  | quoted => obtain ⟨q,u,hu,-⟩ := htake; cases hu
  | number =>
    obtain ⟨c,hc,hd⟩ := hopen
    exact htake.2 c hc (.inl hd)
  | word =>
    obtain ⟨c,hc,hd⟩ := hopen
    refine htake.2 c hc (hd.imp_left fun ha => ?_)
    simp [isAlphanumeric, ha]
  | operator => cases htake
  | other => cases htake

section Append
variable {lang : Language} {keywords : List String} {w r : List Char} {k : Category}

/-- Two characters decide what a text opens with. -/
lemma Shape.opens_append {t : List Char} (ht : 2 ≤ t.length) (b : List Char) (s : Shape) :
    s.Opens lang (t ++ b) ↔ s.Opens lang t := by
  have hpre : ∀ {p : List Char}, p.length ≤ 2 → (p <+: t ++ b ↔ p <+: t) := by
    intro p hp
    constructor
    · intro h
      exact List.prefix_of_prefix_length_le h (List.prefix_append t b) (hp.trans ht)
    · intro h
      exact h.trans (List.prefix_append t b)
  have hne : t ≠ [] := by
    rintro rfl
    simp at ht
  have hhead : (t ++ b).head? = t.head? := List.head?_append_of_ne_nil t hne
  cases s with
  | lineComment => exact hpre (by cases lang <;> simp [lineOpener])
  | blockComment => exact and_congr_right fun _ => hpre le_rfl
  | other => simp [Shape.Opens, hne]
  | _ => simp only [Shape.Opens, hhead]

lemma Shape.Leads.append {t : List Char} {s : Shape} (h : s.Leads lang t) (ht : 2 ≤ t.length)
    (b : List Char) : s.Leads lang (t ++ b) := by
  refine ⟨(opens_append ht b s).mpr h.1,?_⟩
  intro r hr hopen
  exact h.2 r hr ((opens_append ht b r).mp hopen)

lemma Run.append {p : Char → Prop} (h : Run p w r) (hr : r ≠ []) (b : List Char) :
    Run p w (r ++ b) :=
  ⟨h.1,by rw [List.head?_append_of_ne_nil r hr]; exact h.2⟩

lemma Through.append {ends : List Char → Prop} (h : Through ends w r) (hr : r ≠ []) (b : List Char) :
    Through ends w (r ++ b) :=
  ⟨h.1,.inl (h.2.resolve_right hr)⟩

lemma Shape.Takes.append {s : Shape} (h : s.Takes w r) (hr : r ≠ []) (b : List Char) :
    s.Takes w (r ++ b) := by
  cases s with
  | lineComment => exact Run.append h hr b
  | blockComment =>
    obtain ⟨u,hw,hu⟩ := h
    exact ⟨u,hw,hu.append hr b⟩
  | quoted =>
    obtain ⟨q,u,hw,hu⟩ := h
    exact ⟨q,u,hw,hu.append hr b⟩
  | number => exact Run.append h hr b
  | word => exact Run.append h hr b
  | operator => exact h
  | other => exact h

lemma WordHas.append (h : WordHas keywords w r k) (hr : r ≠ []) (b : List Char) :
    WordHas keywords w (r ++ b) k := by
  have hhead : (r ++ b).head? = r.head? := List.head?_append_of_ne_nil r hr
  cases h with
  | keyword hw => exact .keyword hw
  | function hw hp => exact .function hw (hhead.trans hp)
  | type hw hp hu => exact .type hw (hhead ▸ hp) hu
  | normal hw hp hu => exact .normal hw (hhead ▸ hp) hu

/-- A token that leaves some of the text is a token of every longer text. -/
theorem Lexeme.append (h : Lexeme lang keywords w r k) (hr : r ≠ []) (b : List Char) :
    Lexeme lang keywords w (r ++ b) k := by
  have hlen : 2 ≤ (w ++ r).length := by
    have hw := List.length_pos_of_ne_nil h.ne_nil
    have hr := List.length_pos_of_ne_nil hr
    rw [List.length_append]
    omega
  obtain ⟨s,hlead,htake,hhas⟩ := h
  refine ⟨s,?_,htake.append hr b,?_⟩
  · rw [← List.append_assoc]
    exact hlead.append hlen b
  · cases s with
    | word => exact WordHas.append hhas hr b
    | _ => exact hhas

end Append
end EditAssist.Token
