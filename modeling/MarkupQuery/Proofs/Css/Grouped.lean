import MarkupQuery.Proofs.Css.Flat

namespace MarkupQuery.Css

open Text

variable {lib : Library} {o : Origin} {f g : Frame} {ts : List Token} {x y : Selector}
  {n m : Node} {ns : List Node} {s : Simple} {parts : List Simple} {b : Bool}
  {steps : List (Link × List Simple)} {d : Combinator}

def Complex.IsFlat : Complex → Prop
  | .never => True
  | .compound parts => ∀ s ∈ parts, s.IsFlat
  | .combined left _ parts => left.IsFlat ∧ ∀ s ∈ parts, s.IsFlat

lemma combined_yields {left : Complex} {p : Node → Bool}
    (hleft : ∀ m, Yields (left.accepts lib o m) (p m))
    (hparts : ∀ s ∈ parts, Yields (s.accepts lib o n) (s.holds lib o n)) :
    Yields ((Complex.combined left d parts).accepts lib o n)
      (parts.all (Simple.holds lib o n) && (o.before lib n d).any p) := by
  rw [Complex.accepts.eq_3]
  refine (allAccept_yields_all hparts).bind ?_
  cases parts.all (Simple.holds lib o n) with
  | true => exact .anyM fun m _ => hleft m
  | false => exact .of_pure false

lemma Complex.IsFlat.exists_yields : {c : Complex} → c.IsFlat → ∀ (lib : Library) (o : Origin)
    (n : Node), ∃ b, Yields (c.accepts lib o n) b
  | .never, _, _, _, _ => ⟨false, .of_pure false⟩
  | .compound _, h, lib, o, n => ⟨_, allAccept_yields_all fun s hs => (h s hs).yields lib o n⟩
  | .combined _ _ _, h, lib, o, n => by
    choose p hp using exists_yields h.1 lib o
    exact ⟨_, combined_yields hp fun s hs => (h.2 s hs).yields lib o n⟩

lemma rank_le (s : Simple) : s.rank ≤ 3 := by
  unfold Simple.rank
  split <;> decide

lemma ordered_append_group (hs : s.isGroup = true) (parts : List Simple) :
    Frame.ordered (parts ++ [s]) = Frame.ordered parts ++ [s] := by
  have hrank : s.rank = 3 := by simpa [Simple.isGroup] using hs
  simp [Frame.ordered, hrank]

lemma mem_ordered : s ∈ Frame.ordered parts ↔ s ∈ parts := by
  refine ⟨mem_ordered_imp, fun h => List.mem_flatMap.mpr ⟨s.rank, ?_, ?_⟩⟩
  · have hle := rank_le s
    simp only [List.mem_cons, List.not_mem_nil, or_false]
    omega
  · exact List.mem_filter.mpr ⟨h, beq_self_eq_true _⟩

lemma yields_append {a : Bool} (h : (Frame.complexOf steps parts d).IsFlat) (hs : s.isGroup = true)
    (ha : Yields ((Frame.complexOf steps parts d).accepts lib o n) a)
    (hb : Yields (s.accepts lib o n) b) :
    Yields ((Frame.complexOf steps (parts ++ [s]) d).accepts lib o n) (a && b) := by
  have hholds : s.holds lib o n = b := Simple.holds_eq hb
  have hall (hparts : ∀ s ∈ Frame.ordered parts, s.IsFlat) :
      ∀ p ∈ Frame.ordered parts ++ [s], Yields (p.accepts lib o n) (p.holds lib o n) := by
    refine List.forall_mem_append.mpr ⟨fun p hp => (hparts p hp).yields lib o n, ?_⟩
    exact List.forall_mem_singleton.mpr (hholds ▸ hb)
  cases steps with
  | nil =>
    have hall := hall h
    obtain rfl := ha.unique (allAccept_yields_all (List.forall_mem_append.mp hall).1)
    have hgroup := allAccept_yields_all hall
    rw [List.all_append, List.all_cons, List.all_nil, Bool.and_true, hholds] at hgroup
    rw [Frame.complexOf, ordered_append_group hs]
    exact hgroup
  | cons step steps =>
    obtain ⟨l, left⟩ := step
    have hall := hall h.2
    choose p hp using h.1.exists_yields lib o
    obtain rfl := ha.unique (combined_yields (d := d) hp (List.forall_mem_append.mp hall).1)
    have hgroup := combined_yields (d := d) hp hall
    rwa [Frame.complexOf, ordered_append_group hs, Bool.and_right_comm, ← hholds,
      ← Bool.and_true (s.holds lib o n), ← List.all_nil, ← List.all_cons, ← List.all_append]

lemma select_append (h : (Frame.complexOf steps parts d).IsFlat) (hs : s.isGroup = true)
    {q : Node → Bool} (hq : ∀ m ∈ lib.descendantElements n,
      Yields (s.accepts lib ⟨scopeOf lib n, prefixesAt lib n, false⟩ m) (q m)) :
    select lib [Frame.complexOf steps (parts ++ [s]) d] n =
      (select lib [Frame.complexOf steps parts d] n).filter q := by
  choose p hp using h.exists_yields lib ⟨scopeOf lib n, prefixesAt lib n, false⟩
  rw [select_eq_filter fun m _ => anyAccepts_singleton_yields (hp m),
    select_eq_filter fun m hm => anyAccepts_singleton_yields (yields_append h hs (hp m) (hq m hm)),
    List.filter_filter]
  simp only [Bool.and_comm]

structure Frame.Alike (f g : Frame) : Prop where
  opening : f.opening = none
  isHtml : f.isHtml = false
  alternatives : f.alternatives = []
  parts : f.parts = g.parts
  complexOf_eq (parts : List Simple) :
    complexOf f.steps parts f.link.combinator = complexOf g.steps parts g.link.combinator

structure Frame.IsFlat (f : Frame) : Prop where
  parts : ∀ s ∈ f.parts, s.IsFlat
  complexOf {parts : List Simple} :
    (∀ s ∈ parts, s.IsFlat) → (complexOf f.steps parts f.link.combinator).IsFlat

structure Frame.Continues (f g : Frame) : Prop where
  opening : g.opening = f.opening
  isHtml : g.isHtml = f.isHtml
  alternatives : g.alternatives = f.alternatives
  relatives : g.relatives = f.relatives
  link : g.steps = [] → f.steps = [] ∧ g.link = f.link

namespace Frame

lemma Continues.trans {f g h : Frame} (hfg : f.Continues g) (hgh : g.Continues h) :
    f.Continues h where
  opening := hgh.opening.trans hfg.opening
  isHtml := hgh.isHtml.trans hfg.isHtml
  alternatives := hgh.alternatives.trans hfg.alternatives
  relatives := hgh.relatives.trans hfg.relatives
  link hnil := by
    obtain ⟨hg, hlink⟩ := hgh.link hnil
    obtain ⟨hf, hlink'⟩ := hfg.link hg
    exact ⟨hf, hlink.trans hlink'⟩

lemma continues_add (f : Frame) (s : Simple) : f.Continues (f.add s) :=
  ⟨rfl, rfl, rfl, rfl, fun h => ⟨h, rfl⟩⟩

def step (f : Frame) (l : Link) : Frame :=
  { f with steps := (f.link, f.parts.reverse) :: f.steps, link := l, parts := [] }

lemma combine?_eq (h : f.parts ≠ []) (l : Link) : f.combine? l = some (f.step l) := by
  simp [combine?, step, h]

lemma continues_step (f : Frame) (l : Link) : f.Continues (f.step l) :=
  ⟨rfl, rfl, rfl, rfl, nofun⟩

lemma Alike.add (h : f.Alike g) (s : Simple) : (f.add s).Alike (g.add s) :=
  ⟨h.opening, h.isHtml, h.alternatives, congrArg (s :: ·) h.parts, h.complexOf_eq⟩

lemma Alike.step (h : f.Alike g) (l l' : Link) (hl : l.combinator = l'.combinator) :
    (f.step l).Alike (g.step l') where
  opening := h.opening
  isHtml := h.isHtml
  alternatives := h.alternatives
  parts := rfl
  complexOf_eq parts := by
    simp only [Frame.step, Frame.complexOf, h.parts, h.complexOf_eq, hl]

lemma IsFlat.add (h : f.IsFlat) (hs : s.IsFlat) : (f.add s).IsFlat :=
  ⟨List.forall_mem_cons.mpr ⟨hs, h.parts⟩, h.complexOf⟩

lemma IsFlat.step (h : f.IsFlat) (l : Link) : (f.step l).IsFlat where
  parts := by simp [Frame.step]
  complexOf hparts :=
    ⟨h.complexOf fun s hs => h.parts s (List.mem_reverse.mp hs),
      fun s hs => hparts s (mem_ordered.mp hs)⟩

end Frame

lemma exists_assemble_append (hts : ∀ t ∈ ts, t.IsFlat) (hfg : f.Alike g) (hg : g.IsFlat)
    (h : assemble true ts f [] = .ok x) (isWhole : Bool) (us : List Token) (outer : List Frame) :
    ∃ r, assemble isWhole (ts ++ us) g outer = assemble isWhole us r outer ∧ g.Continues r ∧
      r.IsFlat ∧ r.parts ≠ [] ∧
      x = [Frame.complexOf r.steps r.parts.reverse r.link.combinator] := by
  -- By induction on the tokens: each of them leaves the two frames alike.
  induction ts generalizing f g with
  | nil =>
    simp only [assemble] at h
    split at h
    · cases h
    · next hparts =>
      obtain rfl := Except.ok.inj h
      refine ⟨g, rfl, ⟨rfl, rfl, rfl, rfl, fun hnil => ⟨hnil, rfl⟩⟩, hg, ?_, ?_⟩
      · rw [← hfg.parts]
        simpa using hparts
      · have hnot : f.isRelative = false := by simp [Frame.isRelative, hfg.opening]
        simp [Frame.selector, Frame.finish, Frame.reset, hnot, hfg.isHtml, hfg.alternatives,
          hfg.complexOf_eq, hfg.parts]
  | cons t ts ih =>
    obtain ⟨ht, htail⟩ := List.forall_mem_cons.mp hts
    have hadd {s : Simple} (hs : s.IsFlat) (h : assemble true ts (f.add s) [] = .ok x) :
        ∃ r, assemble isWhole (ts ++ us) (g.add s) outer = assemble isWhole us r outer ∧
          g.Continues r ∧ r.IsFlat ∧ r.parts ≠ [] ∧
          x = [Frame.complexOf r.steps r.parts.reverse r.link.combinator] := by
      obtain ⟨r, hr, hcontinues, hrest⟩ := ih htail (hfg.add s) (hg.add hs) h
      exact ⟨r, hr, (g.continues_add s).trans hcontinues, hrest⟩
    cases t with
    | leading s? =>
      simp only [List.cons_append, assemble, ← hfg.parts] at h ⊢
      split at h
      · cases h
      · next hempty =>
        cases s? with
        | none => cases h
        | some s =>
          rw [if_neg hempty]
          exact hadd (ht s rfl) h
    | simple s? =>
      cases s? with
      | none => cases h
      | some s => exact hadd (ht s rfl) h
    | combinator d =>
      have hparts : f.parts ≠ [] := by
        intro hnil
        simp [assemble, Frame.combine?, Frame.isRelative, hnil, hfg.opening] at h
      have hparts' : g.parts ≠ [] := hfg.parts ▸ hparts
      simp only [List.cons_append, assemble, Frame.combine?_eq hparts,
        Frame.combine?_eq hparts'] at h ⊢
      obtain ⟨r, hr, hcontinues, hrest⟩ :=
        ih htail (hfg.step ⟨d, ts.length⟩ ⟨d, (ts ++ us).length⟩ rfl) (hg.step _) h
      exact ⟨r, hr, (g.continues_step _).trans hcontinues, hrest⟩
    | comma | opening | onlyHtml => cases ht
    | closing | unsupported => cases h

def Group.simple (g : Group) (mark : Nat) (parts : List Simple) : Simple :=
  match g with
  | .anyOf => .anyOf [.compound parts]
  | .noneOf => .noneOf [.compound parts]
  | .has => .has [.last mark .descendant parts]

def Group.judges (lib : Library) (g : Group) (x : Selector) (n : Node) : Bool :=
  match g with
  | .anyOf => x.judges lib n
  | .noneOf => !x.judges lib n
  | .has => (lib.descendantElements n).any (x.judges lib)

lemma Group.isGroup_simple (g : Group) (mark : Nat) (parts : List Simple) :
    (g.simple mark parts).isGroup = true := by
  cases g <;> rfl

lemma Group.simple_yields (g : Group) (mark : Nat)
    (hparts : partsSteady (lib.dialect n.document) parts = true)
    (ho : Origin.IsLike (lib.dialect n.document) ⟨none, [], false⟩ o) :
    Yields ((g.simple mark parts).accepts lib o n) (g.judges lib [.compound parts] n) := by
  have hany := anyAccepts_singleton_yields (c := .compound parts) (allAccept_yields hparts ho)
  cases g with
  | anyOf => exact hany
  | noneOf => exact hany.map (!·)
  | has =>
    have hbelow : Yields ((o.after lib n .descendant).anyM (allAccept lib o parts))
        ((o.after lib n .descendant).any (Selector.judges lib [.compound parts])) := by
      refine .anyM fun m hm => ?_
      have hdoc : m.document = n.document := document_of_mem_after hm
      exact allAccept_yields (hdoc ▸ hparts) (hdoc ▸ ho)
    have hafter : o.after lib n .descendant = lib.descendantElements n := by
      simp [Origin.after, ho.1, after]
    rw [judges, ← hafter]
    refine hbelow.bind ?_
    cases (o.after lib n .descendant).any (Selector.judges lib [.compound parts]) <;>
      exact .of_pure _

lemma Frame.alike_start (opening : Option Opening) (mark mark' : Nat) :
    (start none mark).Alike (start opening mark') :=
  ⟨rfl, rfl, rfl, rfl, fun _ => rfl⟩

lemma Frame.isFlat_start (opening : Option Opening) (mark : Nat) : (start opening mark).IsFlat :=
  ⟨nofun, fun hparts s hs => hparts s (mem_ordered.mp hs)⟩

lemma Frame.close?_simple (g : Group) (mark mark' : Nat) {parts : List Simple}
    (h : parts ≠ []) :
    ((⟨some (.group g), false, [], [], [], ⟨.descendant, mark⟩, parts⟩ : Frame).close? mark').bind
      simple? = some (g.simple mark (ordered parts.reverse)) := by
  cases g <;> simp [close?, finish, isRelative, simple?, reset, complexOf, relativeOf,
    Group.simple, h]

lemma exists_assemble_group {mark : Nat} (hts : ∀ t ∈ ts, t.IsPart)
    (h : assemble true ts (.start none mark) [] = .ok y) (g : Group) (isWhole : Bool)
    (us : List Token) (f : Frame) (outer : List Frame) :
    ∃ mark' parts, y = [.compound parts] ∧
      assemble isWhole (.opening (.group g) :: (ts ++ .closing :: us)) f outer =
        assemble isWhole us (f.add (g.simple mark' parts)) outer := by
  obtain ⟨parts, rfl, -⟩ := exists_parts_of_assemble hts (by simp [Frame.start]) rfl rfl rfl rfl h
  obtain ⟨r, hr, hcontinues, -, hne, hx⟩ := exists_assemble_append
    (fun t ht => (hts t ht).isFlat)
    (Frame.alike_start (some (.group g)) mark (ts ++ .closing :: us).length)
    (Frame.isFlat_start _ _) h isWhole (.closing :: us) (f :: outer)
  obtain ⟨opening, isHtml, alternatives, relatives, steps, link, ps⟩ := r
  obtain ⟨hopening, hhtml, halternatives, hrelatives, hlink⟩ := hcontinues
  cases steps with
  | cons => cases hx
  | nil =>
    obtain ⟨-, rfl⟩ := hlink rfl
    obtain rfl := hopening
    obtain rfl := hhtml
    obtain rfl := halternatives
    obtain rfl := hrelatives
    obtain rfl : parts = Frame.ordered ps.reverse := by
      simpa [Frame.complexOf] using hx
    have hclosed := Frame.close?_simple g (ts ++ .closing :: us).length us.length hne
    refine ⟨(ts ++ .closing :: us).length, _, rfl, ?_⟩
    rw [assemble, hr, assemble]
    simp only [Frame.start, hclosed]

lemma assemble_false (ts : List Token) (f : Frame) (outer : List Frame) :
    assemble false ts f outer ≠ .ok x := by
  induction ts generalizing f outer with
  | nil => cases outer <;> simp [assemble]
  | cons t ts ih =>
    cases t with
    | leading s? =>
      simp only [assemble]
      split
      · simp
      · cases s? <;> simp [ih]
    | simple s? => cases s? <;> simp [assemble, ih]
    | combinator =>
      simp only [assemble]
      split <;> simp [ih]
    | comma =>
      simp only [assemble]
      split <;> simp [ih]
    | opening o => exact ih _ _
    | onlyHtml => exact ih _ _
    | unsupported => cases outer <;> simp [assemble]
    | closing =>
      cases outer with
      | nil => simp [assemble]
      | cons g outer =>
        simp only [assemble]
        split <;> simp [ih]

lemma Selector.exists_tokens {css : String} (h : ofText css = .ok x) :
    ∃ ts, tokens (css.toList.map withoutNull) = (ts, true) ∧
      assemble true ts (.start none ts.length) [] = .ok x := by
  rw [ofText] at h
  generalize tokens (css.toList.map withoutNull) = read at h ⊢
  obtain ⟨ts, isWhole⟩ := read
  cases isWhole with
  | true => exact ⟨ts, rfl, h⟩
  | false => exact absurd h (assemble_false ts _ _)

def Group.around (g : Group) (css : String) : String :=
  ":" ++ (String.ofList g.name ++ ("(" ++ (css ++ ")")))

lemma finished_append_closing (cs : List Char) :
    Finished (cs ++ [')']) ∧ ¬ ['*', '/'] <:+ cs ++ [')'] := by
  refine ⟨fun c hc => ?_, ?_⟩
  · obtain rfl : ')' = c := by simpa using hc
    decide
  · rintro ⟨ds, h⟩
    have hlast := congrArg List.getLast? h
    simp [List.getLast?_append] at hlast

lemma Selector.exists_ofText_append_group {css inner : String} (g : Group)
    (hanchored : Anchored (css.toList.map withoutNull))
    (hcomma : ',' ∉ css.toList.map withoutNull) (hend : Finished (css.toList.map withoutNull))
    (hcomment : ¬ ['*', '/'] <:+ css.toList.map withoutNull) (hx : ofText css = .ok x)
    (hcompound : Compound skipSpace (inner.toList.map withoutNull))
    (hwhole : Whole (inner.toList.map withoutNull))
    (hy : ofText inner = .ok y) :
    ∃ x', ofText (css ++ g.around inner) = .ok x' ∧
      ∀ (lib : Library) (n : Node), y.isSteady (lib.dialect n.document) = true →
        select lib x' n = (select lib x n).filter (g.judges lib y) := by
  have htext : (css ++ g.around inner).toList.map withoutNull = css.toList.map withoutNull ++
      ':' :: (g.name ++ '(' :: (inner.toList.map withoutNull ++ [')'])) := by
    have hname : g.name.map withoutNull = g.name := by cases g <;> decide
    simp [Group.around, hname, withoutNull]
  obtain ⟨ts, hts, hassemble⟩ := exists_tokens hx
  obtain ⟨us, hus, hinside⟩ := exists_tokens hy
  have hparts : ∀ t ∈ us, t.IsPart := by
    have hall := hcompound.isPart_of_mem_tokens
    rwa [hus] at hall
  obtain ⟨hflat, happend⟩ := hanchored.tokens_append hcomma hend hcomment (.inl rfl) hts
  obtain ⟨r, hr, hcontinues, hrflat, -, rfl⟩ := exists_assemble_append hflat
    (Frame.alike_start none ts.length
      (ts ++ Token.opening (.group g) :: (us ++ [Token.closing])).length)
    (Frame.isFlat_start none _) hassemble true (.opening (.group g) :: (us ++ [.closing])) []
  obtain ⟨mark, parts, rfl, hgroup⟩ := exists_assemble_group hparts hinside g true [] r []
  have hwhole' : assemble true [] (r.add (g.simple mark parts)) [] =
      .ok [Frame.complexOf r.steps (r.parts.reverse ++ [g.simple mark parts])
        r.link.combinator] := by
    obtain ⟨opening, isHtml, alternatives, relatives, steps, link, ps⟩ := r
    obtain ⟨rfl, rfl, rfl, -, -⟩ := hcontinues
    simp [assemble, Frame.add, Frame.finish, Frame.selector, Frame.reset, Frame.isRelative,
      Frame.start]
  refine ⟨_, ?_, fun lib n hsteady => select_append (hrflat.complexOf ?_)
    (g.isGroup_simple mark parts) fun m hm => ?_⟩
  · obtain ⟨hread, hleft⟩ := many_token_group g hcompound hwhole
    obtain ⟨hends, hopen⟩ := finished_append_closing (css.toList.map withoutNull ++
      ':' :: (g.name ++ '(' :: inner.toList.map withoutNull))
    simp only [List.append_assoc, List.cons_append] at hends hopen
    rw [ofText, htext, happend _ hends hopen, hread, hleft, hus]
    exact hr.trans (hgroup.trans hwhole')
  · exact fun s hs => hrflat.parts s (List.mem_reverse.mp hs)
  · have hdoc : m.document = n.document := (Library.finds_descendantElements n m hm).1
    rw [isSteady_compound] at hsteady
    exact g.simple_yields mark (hdoc ▸ hsteady) (isLike_prefixesAt _ hdoc)

end MarkupQuery.Css
