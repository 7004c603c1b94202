import EditAssist.Proofs.Session.Expiry
import EditAssist.Proofs.Text.Lines
import EditAssist.Text.Blank

/-! What a configuration takes from the lines of a file. A line sets one key to one value or says
nothing. Only the last line for a key counts, so that lines for different keys may change places and
lines that say nothing may stand anywhere. Whatever a file holds, the numbers that are read from it
stay within their bounds, and with them what a session remembers. -/
namespace EditAssist.Text
open Unicode

lemma splitOnce_eq_some_iff {sep : Char} {t a b : List Char} :
    splitOnce sep t = some (a, b) ↔ t = a ++ sep :: b ∧ sep ∉ a := by
  induction t generalizing a b with
  | nil => simp [splitOnce]
  | cons c t ih =>
    rw [splitOnce]
    split_ifs with hc
    · subst hc
      cases a with
      | nil => simp
      | cons d a => simp +contextual
    · constructor
      · intro h
        obtain ⟨⟨a',b'⟩,hsplit,he⟩ := Option.map_eq_some_iff.mp h
        obtain ⟨rfl,rfl⟩ := Prod.mk.inj he
        obtain ⟨rfl,ha⟩ := ih.mp hsplit
        exact ⟨rfl,by simp [ha, Ne.symm hc]⟩
      · rintro ⟨ht,ha⟩
        cases a with
        | nil => exact absurd (List.cons.inj ht).1 hc
        | cons d a =>
          obtain ⟨rfl,rfl⟩ := List.cons.inj ht
          rw [ih.mpr ⟨rfl,fun h => ha (List.mem_cons_of_mem _ h)⟩]
          rfl

lemma trim_concat {c : Char} (hc : isBlank c = true) (t : List Char) : trim (t ++ [c]) = trim t := by
  have hend : ∀ u, trimEnd (u ++ [c]) = trimEnd u := by
    intro u
    simp [trimEnd, hc]
  unfold trim trimStart
  rw [List.dropWhile_append]
  split_ifs with ht
  · simp [hc, List.isEmpty_iff.mp ht]
  · exact hend _

lemma trim_dropReturn (t : List Char) : trim (dropReturn t) = trim t := by
  unfold dropReturn
  split_ifs with ht
  · obtain ⟨u,rfl⟩ := List.getLast?_eq_some_iff.mp ht
    rw [List.dropLast_concat, trim_concat (by decide)]
  · rfl

lemma trim_sublist (t : List Char) : (trim t).Sublist t :=
  (List.rdropWhile_prefix isBlank _).sublist.trans (List.dropWhile_suffix isBlank).sublist

end EditAssist.Text

namespace EditAssist.Config
open Text Unicode

/-- The keys that a configuration knows. -/
inductive Key where
  | catalog
  | undoLimit
  | debounceMs
  | checkpointIdleMs
  | checkpointMinChars
  | diagnostics
  deriving DecidableEq, Repr

def Key.name : Key → String
  | .catalog => "catalog"
  | .undoLimit => "undo-limit"
  | .debounceMs => "debounce-ms"
  | .checkpointIdleMs => "checkpoint-idle-ms"
  | .checkpointMinChars => "checkpoint-min-chars"
  | .diagnostics => "diagnostics"

/-- What a configuration can say for a key. -/
inductive Value where
  | path (p : Option (List Char))
  | number (n : ℕ)
  | switch (on : Bool)
  deriving DecidableEq, Repr

/-- What a configuration says for a key. -/
def get (c : Config) : Key → Value
  | .catalog => .path c.catalogPath
  | .undoLimit => .number c.undoLimit
  | .debounceMs => .number c.debounceMs
  | .checkpointIdleMs => .number c.checkpointIdleMs
  | .checkpointMinChars => .number c.checkpointMinChars
  | .diagnostics => .switch c.diagnostics

/-- What the text of a value means for a key, unless it makes no sense. -/
def Key.read (key : Key) (v : List Char) : Option Value :=
  match key with
  | .catalog => some (.path (if v = [] then none else some v))
  | .undoLimit => (number? v).map fun n => .number (clamp 1 10000 n)
  | .debounceMs => (number? v).map fun n => .number (clamp 50 5000 n)
  | .checkpointIdleMs => (number? v).map .number
  | .checkpointMinChars => (number? v).map fun n => .number (max 1 n)
  | .diagnostics => some (.switch (isYes v))

/-- A line `key = value`: the key, in lower case, and the value are taken without the blanks around
them, and the first equals sign divides them. -/
def Sets (line key value : List Char) : Prop :=
  (trim line).head? ≠ some '#' ∧
    ∃ k v, trim line = k ++ '=' :: v ∧ '=' ∉ k ∧ lowerName (trim k) = key ∧ trim v = value

/-- A line that says nothing: it is blank or a comment, it has no equals sign, or nobody knows its
key. -/
inductive Silent (line : List Char) : Prop
  | blank : (∀ c ∈ line, isBlank c) → Silent line
  | comment : (trim line).head? = some '#' → Silent line
  | bare : '=' ∉ line → Silent line
  | unknown {k v : List Char} : Sets line k v → (∀ key : Key, k ≠ key.name.toList) → Silent line

/-- Of some lines, the last that sets a key sets it to a value. -/
def LastSets (ls : List (List Char)) (key : Key) (value : List Char) : Prop :=
  ∃ before line behind, ls = before ++ line :: behind ∧ Sets line key.name.toList value ∧
    ∀ l ∈ behind, ∀ v, ¬ Sets l key.name.toList v

/-- Lines that come from others as silent lines are put in or left out and neighbours with different
keys change places. -/
inductive Rearranges : List (List Char) → List (List Char) → Prop
  | refl (ls : List (List Char)) : Rearranges ls ls
  | insert {line : List Char} (before behind : List (List Char)) : Silent line →
      Rearranges (before ++ behind) (before ++ line :: behind)
  | swap {l l' k k' v v' : List Char} (before behind : List (List Char)) :
      Sets l k v → Sets l' k' v' → k ≠ k' →
      Rearranges (before ++ l :: l' :: behind) (before ++ l' :: l :: behind)
  | symm {ls ms : List (List Char)} : Rearranges ls ms → Rearranges ms ls
  | trans {ls ms ns : List (List Char)} : Rearranges ls ms → Rearranges ms ns → Rearranges ls ns

section Lines
variable {ls ms : List (List Char)} {line key value : List Char}

theorem setting?_eq_some_iff : setting? line = some (key, value) ↔ Sets line key value := by
  unfold setting?
  constructor
  · intro h
    dsimp only at h
    split_ifs at h with hskip
    obtain ⟨⟨k,v⟩,hsplit,he⟩ := Option.map_eq_some_iff.mp h
    obtain ⟨rfl,rfl⟩ := Prod.mk.inj he
    obtain ⟨htrim,hk⟩ := splitOnce_eq_some_iff.mp hsplit
    refine ⟨?_,k,v,htrim,hk,rfl,rfl⟩
    intro hhead
    exact hskip (by simp [hhead])
  · rintro ⟨hhead,k,v,htrim,hk,rfl,rfl⟩
    have hne : (trim line).isEmpty = false := by simp [htrim]
    rw [if_neg (by simp [hne, hhead]), splitOnce_eq_some_iff.mpr ⟨htrim,hk⟩]
    rfl

/-- A line sets one key only. -/
lemma Sets.unique {key' value' : List Char} (h : Sets line key value) (h' : Sets line key' value') :
    key = key' ∧ value = value' := by
  have he := (setting?_eq_some_iff.mpr h).symm.trans (setting?_eq_some_iff.mpr h')
  exact Prod.mk.inj (Option.some.inj he)

/-- A silent line sets no key that is known. -/
lemma Silent.not_sets (h : Silent line) (key : Key) : ¬ Sets line key.name.toList value := by
  intro hsets
  have hmem : '=' ∈ line := by
    obtain ⟨-,k,v,htrim,-⟩ := hsets
    exact (trim_sublist line).subset (by simp [htrim])
  cases h with
  | blank hblank => exact absurd (hblank '=' hmem) (by decide)
  | comment hcomment => exact hsets.1 hcomment
  | bare hbare => exact hbare hmem
  | unknown hother hkey => exact hkey key (hother.unique hsets).1

lemma setting?_dropReturn (l : List Char) : setting? (dropReturn l) = setting? l := by
  unfold setting?
  rw [trim_dropReturn]

/-- The settings of a file, read off all that stands between its newlines. -/
theorem settings_eq (contents : List Char) :
    settings contents = (splitOn '\n' contents).filterMap setting? := by
  have hreturn : setting? ∘ dropReturn = setting? := funext setting?_dropReturn
  obtain ⟨ps,p,hps⟩ :=
    (List.eq_nil_or_concat (splitOn '\n' contents)).resolve_left (splitBy_ne_nil _ _)
  rw [List.concat_eq_append] at hps
  simp only [settings, endedLines, hps, List.dropLast_concat, List.getLast?_concat,
    List.filterMap_append, List.filterMap_map, hreturn, Option.toList_some]
  congr 1
  by_cases hp : p = []
  · subst hp
    rfl
  · simp [hp]

/-- The value of the last line for a key. -/
def lastIn (ls : List (List Char)) (key : Key) : Option (List Char) :=
  last? (ls.filterMap setting?) key.name

@[simp] lemma lastIn_nil (key : Key) : lastIn [] key = none := rfl

lemma lastIn_append (ls ms : List (List Char)) (key : Key) :
    lastIn (ls ++ ms) key = (lastIn ms key).or (lastIn ls key) := by
  simp only [lastIn, last?, List.filterMap_append, List.reverse_append, List.lookup_append]

lemma lastIn_cons (l : List Char) (ls : List (List Char)) (key : Key) :
    lastIn (l :: ls) key = (lastIn ls key).or (lastIn [l] key) := lastIn_append [l] ls key

lemma lastIn_singleton_eq_some_iff {key : Key} :
    lastIn [line] key = some value ↔ Sets line key.name.toList value := by
  rw [← setting?_eq_some_iff]
  cases h : setting? line with
  | none => simp [lastIn, last?, h]
  | some s =>
    obtain ⟨k,v⟩ := s
    by_cases hk : key.name.toList = k
    · subst hk
      simp [lastIn, last?, h]
    · simp [lastIn, last?, h, hk, Ne.symm hk]

lemma lastIn_eq_none_iff {key : Key} :
    lastIn ls key = none ↔ ∀ l ∈ ls, ∀ v, ¬ Sets l key.name.toList v := by
  induction ls with
  | nil => simp
  | cons l ls ih =>
    rw [lastIn_cons, Option.or_eq_none_iff, ih, Option.eq_none_iff_forall_ne_some, List.forall_mem_cons,
      and_comm]
    simp only [ne_eq, lastIn_singleton_eq_some_iff]

/-- What is found is the value of the last line for the key. -/
theorem lastIn_eq_some_iff {key : Key} : lastIn ls key = some value ↔ LastSets ls key value := by
  constructor
  · intro h
    induction ls with
    | nil => simp at h
    | cons l ls ih =>
      rw [lastIn_cons] at h
      cases hls : lastIn ls key with
      | none =>
        rw [hls, Option.none_or, lastIn_singleton_eq_some_iff] at h
        exact ⟨[],l,ls,rfl,h,lastIn_eq_none_iff.mp hls⟩
      | some v =>
        rw [hls, Option.some_or] at h
        obtain ⟨before,line,behind,rfl,hsets,hbehind⟩ := ih (hls.trans h)
        exact ⟨l :: before,line,behind,rfl,hsets,hbehind⟩
  · rintro ⟨before,line,behind,rfl,hsets,hbehind⟩
    rw [lastIn_append, lastIn_cons, lastIn_eq_none_iff.mpr hbehind,
      lastIn_singleton_eq_some_iff.mpr hsets]
    rfl

/-- Rearranged lines have the same last values. -/
theorem Rearranges.lastIn_eq (h : Rearranges ls ms) (key : Key) : lastIn ls key = lastIn ms key := by
  induction h with
  | refl ls => rfl
  | @insert line before behind hsilent =>
    have hnone : lastIn [line] key = none := by
      rw [lastIn_eq_none_iff]
      intro l hl v
      rw [List.mem_singleton.mp hl]
      exact hsilent.not_sets key
    rw [lastIn_append, lastIn_append, lastIn_cons, hnone, Option.or_none]
  | @swap l l' k k' v v' before behind hl hl' hne =>
    -- at most one of the two lines is for the key, so it does not matter which comes last
    have hpair : lastIn [l, l'] key = lastIn [l', l] key := by
      rw [lastIn_cons l [l'], lastIn_cons l' [l]]
      cases hfirst : lastIn [l] key with
      | none => simp
      | some w =>
        cases hsecond : lastIn [l'] key with
        | none => simp
        | some w' =>
          have hk := (hl.unique (lastIn_singleton_eq_some_iff.mp hfirst)).1
          have hk' := (hl'.unique (lastIn_singleton_eq_some_iff.mp hsecond)).1
          exact absurd (hk.trans hk'.symm) hne
    have hcut : ∀ x y, lastIn (before ++ x :: y :: behind) key =
        ((lastIn behind key).or (lastIn [x, y] key)).or (lastIn before key) := by
      intro x y
      rw [lastIn_append, show x :: y :: behind = [x, y] ++ behind from rfl, lastIn_append [x, y]]
    rw [hcut, hcut, hpair]
  | symm _ ih => exact ih.symm
  | trans _ _ ih ih' => exact ih.trans ih'

end Lines

section Fields

/-- A configuration is what it says for its keys. -/
lemma get_injective : Function.Injective get := by
  intro c c' h
  have hcatalog := congrFun h .catalog
  have hundo := congrFun h .undoLimit
  have hdebounce := congrFun h .debounceMs
  have hidle := congrFun h .checkpointIdleMs
  have hchars := congrFun h .checkpointMinChars
  have hdiagnostics := congrFun h .diagnostics
  obtain ⟨p,u,d,i,m,b⟩ := c
  obtain ⟨p',u',d',i',m',b'⟩ := c'
  simp_all [get]

lemma get_ofSettings (ss : List (List Char × List Char)) (key : Key) :
    (ofSettings ss).get key = ((last? ss key.name).bind key.read).getD (({} : Config).get key) := by
  cases key with
  | catalog =>
    simp only [get, ofSettings, Key.name]
    cases last? ss "catalog" with
    | none => rfl
    | some v => by_cases hv : v = [] <;> simp [hv, Key.read, Option.filter]
  | diagnostics =>
    simp only [get, ofSettings, Key.name]
    cases last? ss "diagnostics" <;> rfl
  | _ =>
    simp only [get, ofSettings, Key.name]
    cases last? ss _ with
    | none => rfl
    | some v =>
      simp only [Option.bind_some, Key.read]
      cases number? v <;> rfl

/-- What a file says for a key is read off the last line for it. -/
theorem get_ofContents (contents : List Char) (key : Key) :
    (ofContents contents).get key =
      ((lastIn (splitOn '\n' contents) key).bind key.read).getD (({} : Config).get key) := by
  rw [ofContents, get_ofSettings, settings_eq]
  rfl

/-- Files with the same last values make the same configuration. -/
theorem ofContents_congr {contents contents' : List Char}
    (h : ∀ key, lastIn (splitOn '\n' contents) key = lastIn (splitOn '\n' contents') key) :
    ofContents contents = ofContents contents' := by
  apply get_injective
  funext key
  rw [get_ofContents, get_ofContents, h]

lemma clamp_bounds {lo hi d : ℕ} (hd : lo ≤ d ∧ d ≤ hi) (o : Option ℕ) :
    lo ≤ (o.map (clamp lo hi)).getD d ∧ (o.map (clamp lo hi)).getD d ≤ hi := by
  cases o with
  | none => exact hd
  | some n =>
    simp only [Option.map_some, Option.getD_some, clamp]
    omega

lemma one_le_checkpointMinChars (ss : List (List Char × List Char)) :
    1 ≤ (ofSettings ss).checkpointMinChars := by
  simp only [ofSettings]
  cases (last? ss "checkpoint-min-chars").bind number? with
  | none => decide
  | some n => exact Nat.le_max_left 1 n

end Fields

/-- The last line for a key decides. What a configuration says for a key is what the value of the last
line for it means, and the default if that makes no sense or there is no such line; so nothing else in a
file matters, lines for different keys can change places, and blank lines, comments, lines without an
equals sign and lines with unknown keys can stand anywhere. The numbers are always within their bounds,
and no session that is made from a configuration ever keeps more than 10000 snapshots to go back to. -/
theorem ofContents_last_wins (contents : List Char) :
    let lines := splitOn '\n'
    let c := ofContents contents
    (∀ key v, LastSets (lines contents) key v →
      c.get key = (key.read v).getD (({} : Config).get key)) ∧
    (∀ key, (∀ v, ¬ LastSets (lines contents) key v) → c.get key = ({} : Config).get key) ∧
    (∀ contents', (∀ key v, LastSets (lines contents) key v ↔ LastSets (lines contents') key v) →
      ofContents contents' = c) ∧
    (∀ contents', Rearranges (lines contents) (lines contents') → ofContents contents' = c) ∧
    (1 ≤ c.undoLimit ∧ c.undoLimit ≤ 10000) ∧ (50 ≤ c.debounceMs ∧ c.debounceMs ≤ 5000) ∧
    1 ≤ c.checkpointMinChars ∧
    ∀ clock events, ((Session.ofConfig c clock).runEvents events).history.undos.length ≤ 10000 := by
  intro lines c
  have hundo : 1 ≤ c.undoLimit ∧ c.undoLimit ≤ 10000 := clamp_bounds (by decide) _
  refine ⟨?_,?_,?_,?_,hundo,clamp_bounds (by decide) _,one_le_checkpointMinChars _,?_⟩
  · intro key v hv
    rw [get_ofContents, lastIn_eq_some_iff.mpr hv, Option.bind_some]
  · intro key hnone
    have hlast : lastIn (lines contents) key = none := by
      rw [Option.eq_none_iff_forall_ne_some]
      intro v hv
      exact hnone v (lastIn_eq_some_iff.mp hv)
    rw [get_ofContents, hlast, Option.bind_none, Option.getD_none]
  · intro contents' hsame
    apply ofContents_congr
    intro key
    apply Option.ext
    intro v
    rw [lastIn_eq_some_iff, lastIn_eq_some_iff, hsame]
  · intro contents' hrearranges
    exact ofContents_congr fun key => (hrearranges.lastIn_eq key).symm
  · intro clock events
    have hle := Session.length_undos_runEvents_le c.limits c.debounceMs clock events
    exact Nat.le_trans hle hundo.2

end EditAssist.Config
