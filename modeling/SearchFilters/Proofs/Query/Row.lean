import SearchFilters.Proofs.Query.Leaf

/-!
# Proofs — Query — Row

Reading rows of clauses and the groups around them.

The reader keeps the clauses of a node with the last one first and makes a tree of them when the
node ends, while a row is printed as a clause, an operator and the text of its right side.  To read
a row is therefore told by what it adds to the reader: links in front of those there were, and a
clause at hand, whose node is the tree of the row (`ReadsRow`).  `RowText` and `SideText` are the
texts that do so where a clause may begin, and behind an operator.  A right side adds its links
behind the operator's, and `node_concat` makes one tree of the two.

* `rowText_single`, `rowText_binary`: rows of one clause, and of a clause, an operator and its right
  side.
* `sideText_of_clausal`, `sideText_of_row`, `sideText_negated`: what a right side may be; a row that
  `NOT` opens goes with an operator that is negated itself, and only there.
* `clausal_group`: a row in parentheses is a clause.
-/

namespace SearchFilters.Query
open Text

/-! ### Nodes -/

/-- The clauses before a node's last operator make up its left sides. -/
theorem node_concat (links : List Link) (l : Link) (start : Option Operator) (c : Tree) :
    node (links ++ [l]) start c =
      .binary l.clause l.op (node links start c).collapse { start := l.start } := by
  simp only [node, List.foldl_append, List.foldl_cons, List.foldl_nil]

theorem regroup_regroup (t : Tree) (f g : Grouping → Grouping) :
    (t.regroup f).regroup g = t.regroup fun x => g (f x) := by
  cases t <;> rfl

/-- Of what surrounds a group only parentheses decide how its text ends. -/
theorem tight_of_open {t : Tree} (ht : t.Tight) (hp : t.grouping.parenthesized = false) :
    (t.regroup fun _ => {}).Tight := by
  cases t with
  | single l g | binary l op r g =>
        exact .inr (ht.resolve_left (fun h => Bool.noConfusion (hp.symm.trans h)))
  | _ => exact ht

/-- A group that is left out ends as its clause does. -/
theorem tight_of_collapse {t : Tree} {g : Grouping} (hg : g.parenthesized = false)
    (h : (t.regroup fun _ => g).collapse.Tight) : (t.regroup fun _ => {}).Tight := by
  have ht : (t.regroup fun _ => g).Tight := by
    cases t with
    | single l _ =>
        rw [Tree.regroup, Tree.collapse] at h
        split at h
        · exact .inr h
        · exact h
    | _ => exact h
  cases t with
  | single l _ => exact tight_of_open (t := .single l g) ht hg
  | binary l op r _ => exact tight_of_open (t := .binary l op r g) ht hg
  | _ => exact ht

/-! ### Rows and right sides -/

/-- The reader that a run over a row ends in: the links of the row are put in front of those there
were, and the last clause of the row is complete. -/
def ReadsRow (r b : Reader) (w s : List Char) (P : Tree → Prop) : Prop :=
  ∃ links start p c,
    Steps r (w ++ s) { b with links := links ++ b.links, start := start, position := p } s ∧
      p.clause? = some c ∧ P (node links start c)

/-- A text that reads as a row of clauses wherever a clause may begin. -/
structure RowText (w : List Char) (t : Tree) : Prop where
  solid : ∀ s, Solid (w ++ s)
  noKeyword : ∀ {s}, Follows s → NoKeyword (w ++ s)
  tight : (t.regroup fun _ => {}).Tight → EndsTight w
  noSymbol : t.NotSymbolic → ∀ {s}, Follows s → NoSymbol (w ++ s)
  reads : ∀ {r b s}, Begins r b (w ++ s) → Follows s →
    ReadsRow r b w s (· = t.regroup fun _ => { start := b.start })

/-- The reader `r` stands behind an operator and a blank, and `b` reads the right side.  An implicit
operator is only known from the clause after it. -/
inductive After : Operator → Reader → Reader → Prop where
  | implicit {r : Reader} {c : Tree} (h : r.position.clause? = some c) :
      After .implicit r (r.join c .implicit)
  | explicit {op : Operator} {r : Reader} (h : op ≠ .implicit) (hs : r.start = none)
      (hp : r.position = .node) : After op r r

/-- A text that reads as a right side of an operator. -/
structure SideText (op : Operator) (w : List Char) (t : Tree) : Prop where
  solid : ∀ s, Solid (w ++ s)
  /-- no `NOT` that would belong to the operator begins the text -/
  positive : op = .and ∨ op = .or → ∀ {s}, Follows s →
    splitKeyword "NOT".toList (w ++ s) = none
  tight : t.Tight → EndsTight w
  reads : ∀ {r b s}, After op r b → Follows s → ReadsRow r b w s (·.collapse = t)

/-- A row of one clause. -/
theorem rowText_single {w : List Char} {c : Tree} (h : Clausal w c) : RowText w (.single c {}) := by
  refine ⟨h.solid, h.noKeyword, fun ht => h.tight (ht.resolve_left (by simp)), h.noSymbol,
    fun hr hs => ?_⟩
  obtain ⟨p, hsteps, hp⟩ := h.reads hr hs
  exact ⟨[], _, p, c, hsteps, hp, rfl⟩

theorem After.start {op : Operator} {r b : Reader} (h : After op r b) : b.start = none := by
  cases h with
  | implicit => rfl
  | explicit _ hs => exact hs

/-- Behind an operator a clause may begin, unless the text looks like an operator itself. -/
theorem After.begins {op : Operator} {r b : Reader} {s : List Char} (h : After op r b)
    (hs : NoKeyword s) (hy : op = .implicit → NoSymbol s) : Begins r b s := by
  cases h with
  | implicit hc => exact begins_join hc hs (hy rfl)
  | explicit _ _ hp => exact begins_node hp hs

/-- The blanks and the name between two sides. -/
theorem steps_separator {op : Operator} {r : Reader} {c : Tree} {s : List Char}
    (hr : r.position.clause? = some c) (hknown : ∀ t, op ≠ .other t) (hs : Solid s)
    (hn : op = .and ∨ op = .or → splitKeyword "NOT".toList s = none) :
    ∃ r', Steps r (op.separator ++ s) r' s ∧ After op r' (r.join c op) := by
  by_cases hop : op = .implicit
  · subst hop
    exact ⟨r, .one (.skip rfl), .implicit hr⟩
  · obtain ⟨ks, hks, -⟩ := kinds_of_clause? hr
    obtain ⟨k, hk, hl⟩ := firstLexeme?_operator hs hop hknown hn ks
    rw [← hks] at hl
    have e : op.separator ++ s = ' ' :: (op.text.toList ++ ' ' :: s) := by
      cases op <;> first | exact absurd rfl hop | simp [Operator.separator]
    have hmod : k ≠ .boost ∧ k ≠ .fuzzy := by
      constructor
      all_goals
        rintro rfl
        cases hk
    have hstep : r.step k op.text.toList = some (r.join c op) := by
      rw [step_of_clause? hr hmod]
      simp only [Reader.continueAfter, hk]
    rw [e]
    exact ⟨r.join c op, .more (.skip rfl) (.more (step_of_lexeme hl hstep) (.one (.skip rfl))),
      .explicit hop rfl rfl⟩

/-- What stands between two sides follows a clause. -/
theorem follows_separator {op : Operator} {s : List Char} (hknown : ∀ t, op ≠ .other t)
    (hs : Solid s) : Follows (op.separator ++ s) := by
  cases op with
  | implicit => exact hs.follows
  | other t => exact absurd rfl (hknown t)
  | and => exact .blank (c := 'A') _ (by decide) (by decide)
  | or => exact .blank (c := 'O') _ (by decide) (by decide)
  | not => exact .blank (c := 'N') _ (by decide) (by decide)
  | andNot => exact .blank (c := 'A') _ (by decide) (by decide)
  | orNot => exact .blank (c := 'O') _ (by decide) (by decide)

/-- A row of a clause, an operator and its right side. -/
theorem rowText_binary {u v : List Char} {c t : Tree} {op : Operator} (hu : Clausal u c)
    (hv : SideText op v t) (hknown : ∀ s, op ≠ .other s) :
    RowText (u ++ op.separator ++ v) (.binary c op t {}) := by
  have assoc (s : List Char) : u ++ op.separator ++ v ++ s = u ++ (op.separator ++ (v ++ s)) := by
    simp only [List.append_assoc]
  have follows (s : List Char) : Follows (op.separator ++ (v ++ s)) :=
    follows_separator hknown (hv.solid s)
  refine ⟨fun s => ?_, fun {s} _ => ?_, fun ht => ?_, fun hn s _ => ?_, fun {r b s} hr hs => ?_⟩
  · rw [assoc]
    exact hu.solid _
  · rw [assoc]
    exact hu.noKeyword (follows s)
  · exact (hv.tight (ht.resolve_left (by simp))).append _
  · rw [assoc]
    exact hu.noSymbol hn (follows s)
  · rw [assoc] at hr
    obtain ⟨p, h₁, hp⟩ := hu.reads hr (follows s)
    obtain ⟨r', h₂, hafter⟩ := steps_separator (r := { b with position := p }) hp hknown
      (hv.solid s) fun h => hv.positive h hs
    obtain ⟨links, start, q, d, h₃, hq, ht⟩ := hv.reads hafter hs
    refine ⟨links ++ [⟨c, op, b.start⟩], start, q, d, ?_, hq, ?_⟩
    · rw [assoc, List.append_assoc]
      exact h₁.trans (h₂.trans h₃)
    · rw [node_concat, ht]
      rfl

/-! ### What a right side may be -/

/-- A clause is a right side. -/
theorem sideText_of_clausal {w : List Char} {c : Tree} {op : Operator} (h : Clausal w c)
    (hy : op = .implicit → c.NotSymbolic) : SideText op w c := by
  refine ⟨h.solid, fun _ _ hs => h.noKeyword hs _ (by decide), h.tight, fun {r b s} hr hs => ?_⟩
  obtain ⟨p, hsteps, hp⟩ :=
    h.reads (hr.begins (h.noKeyword hs) fun ho => h.noSymbol (hy ho) hs) hs
  refine ⟨[], none, p, c, ?_, hp, rfl⟩
  rw [← hr.start]
  exact hsteps

/-- A row is a right side, and a row of one clause is that clause there. -/
theorem sideText_of_row {w : List Char} {t : Tree} {op : Operator} (h : RowText w t)
    (hy : op = .implicit → t.NotSymbolic) :
    SideText op w (t.regroup fun _ => {}).collapse := by
  refine ⟨h.solid, fun _ _ hs => h.noKeyword hs _ (by decide),
    fun ht => h.tight (tight_of_collapse rfl ht), fun {r b s} hr hs => ?_⟩
  obtain ⟨links, start, p, c, hsteps, hp, ht⟩ :=
    h.reads (hr.begins (h.noKeyword hs) fun ho => h.noSymbol (hy ho) hs) hs
  refine ⟨links, start, p, c, hsteps, hp, ?_⟩
  rw [ht, hr.start]

/-- The `NOT` that opens a node. -/
theorem steps_not {r : Reader} (hr : r.position = .node) (s : List Char) :
    Steps r ("NOT ".toList ++ s) { r with start := some .not, position := .clause } s := by
  have hl : firstLexeme? r.position.kinds ("NOT ".toList ++ s) =
      some (.not, "NOT".toList, ' ' :: s) := by
    rw [hr]
    exact firstLexeme?_cons_of_some (k := .not) rfl
  refine .more (step_of_lexeme hl ?_) (.one (.skip rfl))
  simp only [Reader.step, hr]

/-- A row that `NOT` opens. -/
theorem readsRow_not {w s : List Char} {t : Tree} {r : Reader} (h : RowText w t)
    (hr : r.position = .node) (hs : Follows s) :
    ReadsRow r r ("NOT ".toList ++ w) s (· = t.regroup fun _ => { start := some .not }) := by
  have h₁ := steps_not hr (w ++ s)
  obtain ⟨links, start, p, c, h₂, hc, ht⟩ := h.reads
    (begins_clause (r := { r with start := some .not, position := .clause }) rfl (w ++ s)) hs
  refine ⟨links, start, p, c, ?_, hc, ht⟩
  rw [List.append_assoc]
  exact h₁.trans h₂

/-- A row that `NOT` opens is a right side of an operator that is negated itself. -/
theorem sideText_negated {w : List Char} {t : Tree} {op : Operator} (h : RowText w t)
    (hop : op = .not ∨ op = .andNot ∨ op = .orNot) :
    SideText op ("NOT ".toList ++ w) (t.regroup fun _ => { start := some .not }).collapse := by
  refine ⟨fun s => ⟨'N', _, rfl, by decide, by decide⟩, ?_,
    fun ht => (h.tight (tight_of_collapse rfl ht)).append _, fun {r b s} hr hs => ?_⟩
  · rintro (rfl | rfl) <;> rcases hop with hop | hop | hop <;> cases hop
  · cases hr with
    | implicit => rcases hop with hop | hop | hop <;> cases hop
    | explicit _ _ hp =>
        obtain ⟨links, start, p, c, hsteps, hc, ht⟩ := readsRow_not h hp hs
        exact ⟨links, start, p, c, hsteps, hc, congrArg Tree.collapse ht⟩

/-! ### Groups -/

/-- The text in front of a group's clauses inside its parenthesis. -/
theorem steps_start {g : Grouping} {w s : List Char} {t : Tree} {r : Reader} (h : RowText w t)
    (hg : g.Negatable) (hr : r.position = .node) (hstart : r.start = none) (hs : Follows s) :
    ReadsRow r r (g.startText ++ w) s (· = t.regroup fun _ => { start := g.start }) := by
  rcases hg with hg | hg
  · obtain ⟨links, start, p, c, h₁, hc, ht⟩ := h.reads (begins_node hr (h.noKeyword hs)) hs
    refine ⟨links, start, p, c, ?_, hc, ?_⟩
    · rw [Grouping.startText, hg]
      exact h₁
    · rw [ht, hstart, hg]
  · rw [Grouping.startText, hg]
    exact readsRow_not h hr hs

/-- The end of a group. -/
theorem step_close {r : Reader} {c : Tree} (hr : r.position.clause? = some c) (f : Frame)
    (fs : List Frame) (hf : r.frames = f :: fs) (s : List Char) :
    Step r (')' :: s)
      { r with frames := fs, links := f.links, start := f.start,
               position := .done ((node r.links r.start c).regroup fun g =>
                 { g with field := f.field, parenthesized := true }) } s := by
  obtain ⟨ks, hks, -, -, hclose⟩ := kinds_of_clause? hr
  have hl : firstLexeme? r.position.kinds (')' :: s) = some (.groupClose, [')'], s) := by
    rw [hks, firstLexeme?_append_of_none fun k hk => Kind.split_eq_none ?_ s]
    · exact firstLexeme?_of_starts hclose rfl
    · revert k
      decide
  refine step_of_lexeme hl ?_
  rw [step_of_clause? hr (by decide)]
  simp only [Reader.continueAfter, operator?, Reader.closeGroup, hf]

/-- The text of a group begins with its field name or with its parenthesis. -/
theorem wrap_cases {g : Grouping} (hg : g.Enclosed) (w s : List Char) :
    (g.field = none ∧ g.wrap w ++ s = '(' :: (g.startText ++ w ++ ')' :: s)) ∨
      ∃ f, g.field = some f ∧ isFieldName f.toList = true ∧
        g.wrap w ++ s = f.toList ++ ':' :: '(' :: (g.startText ++ w ++ ')' :: s) := by
  rw [Grouping.wrap]
  cases hf : g.field with
  | none => exact .inl ⟨rfl, by simp [hg.parenthesized]⟩
  | some f =>
      have hn := hg.field f hf
      have hi : f ≠ implicitField := by
        rintro rfl
        exact absurd hn (by decide)
      exact .inr ⟨f, rfl, hn, by simp [hg.parenthesized, fieldText, hi]⟩

/-- A group behind its opening parenthesis. -/
theorem steps_group {g : Grouping} {w s : List Char} {t : Tree} {b : Reader} (h : RowText w t)
    (hg : g.Enclosed) :
    Steps (b.openGroup g.field) (g.startText ++ w ++ ')' :: s)
      { b with position := .done (t.regroup fun _ => g) } s := by
  obtain ⟨links, start, p, c, h₁, hp, ht⟩ :=
    steps_start (r := b.openGroup g.field) h hg.start rfl rfl (.close s)
  have h₂ : Step { b.openGroup g.field with links := links ++ [], start := start, position := p }
      (')' :: s) { b with position := .done ((node (links ++ []) start c).regroup fun x =>
        { x with field := g.field, parenthesized := true }) } s :=
    step_close hp ⟨b.links, b.start, g.field⟩ b.frames rfl s
  have e : (node (links ++ []) start c).regroup
      (fun x => { x with field := g.field, parenthesized := true }) = t.regroup fun _ => g := by
    rw [List.append_nil, ht, regroup_regroup, ← hg.parenthesized]
  rw [e] at h₂
  exact h₁.trans (.one h₂)

/-- **A row in parentheses is a clause**, with the field it stands under. -/
theorem clausal_group {g : Grouping} {w : List Char} {t : Tree} (h : RowText w t)
    (hg : g.Enclosed) : Clausal (g.wrap w) (t.regroup fun _ => g) := by
  have clear (s : List Char) : Clear (g.wrap w ++ s) := by
    rcases wrap_cases hg w s with ⟨-, e⟩ | ⟨f, -, hf, e⟩ <;> rw [e]
    · exact clear_cons (by decide) _
    · exact clear_name hf _
  have closed : EndsTight (g.wrap w) := by
    rcases wrap_cases hg w [] with ⟨-, e⟩ | ⟨f, -, -, e⟩ <;> rw [List.append_nil] at e <;> rw [e]
    · exact ((endsTight_concat (by decide) []).append _).cons '('
    · exact ((((endsTight_concat (by decide) []).append _).cons '(').cons ':').append _
  refine ⟨fun s => (clear s).solid, fun _ => (clear _).noKeyword, fun _ => closed,
    fun _ _ _ => (clear _).noSymbol, fun {r b s} hr _ => ?_⟩
  refine ⟨.done (t.regroup fun _ => g), ?_, rfl⟩
  have hgroup := steps_group (s := s) (b := b) h hg
  rcases wrap_cases hg w s with ⟨hf, e⟩ | ⟨f, hf, hn, e⟩
  · rw [e] at hr ⊢
    rw [hf] at hgroup
    exact .more (hr (firstLexeme?_of_starts (k := .groupOpen) rfl rfl) rfl) hgroup
  · rw [e] at hr ⊢
    rw [hf] at hgroup
    have h₂ : Step { b with position := .named f } ('(' :: (g.startText ++ w ++ ')' :: s))
        (b.openGroup (some f)) (g.startText ++ w ++ ')' :: s) := .take rfl rfl rfl
    exact .more (step_fieldName hn hr) (.more h₂ hgroup)

end SearchFilters.Query
