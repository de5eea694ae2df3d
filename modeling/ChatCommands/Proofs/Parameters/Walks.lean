import ChatCommands.Parameters
import ChatCommands.Proofs.Act

/-!
# Walks over parameters

What a walk calls may walk over the same parameters again, try to fix them up, and fail at any
point. However walks are nested, fixing up is refused for as long as one of them is running, and for
no longer: each walk gives back the count of running walks as it found it, whether it ends by itself
or with an error.

Main statements: `orderly_run`, `Course.length_pending`, `Stretch.eq_append`, `fixup_refused_iff`.
-/

namespace ChatCommands.Parameters

variable {σ : Type}

/-! ### What a host does with parameters -/

/-- What a host does with parameters: it ends or fails, goes on by what it sees of the parameters
and of its own state, fixes up the parameters, or walks over them. Whether a call ends with an error
decides like anything else how the host goes on, so that it may pass the error on or not. -/
inductive Script (σ : Type) where
  | done
  | fail (e : Error)
  | look (change : σ → σ) (next : Table String Value → σ → Script σ)
  | fixup (placeholder literal : Option String) (next : Except Error Unit → Script σ)
  | foreach (action : String → Value → Script σ) (next : Except Error Unit → Script σ)

/-- What happens to parameters, with the values of that time. -/
inductive Record
  | opened (values : Table String Value)
  | visited (name : String) (v : Value)
  | closed (values : Table String Value) (result : Except Error Unit)
  | fixedUp (values : Table String Value) (placeholder literal : Option String)
      (result : Except Error Unit) (after : Table String Value)

/-- Puts what happens on the list. -/
def put (x : Record) : Act (Parameters × List Record × σ) Unit :=
  .of fun (p, records, s) => (.ok (), p, records ++ [x], s)

/-- An action that lists its visits. -/
def watched (action : String → Value → Act (Parameters × List Record × σ) Unit) (name : String)
    (v : Value) : Act (Parameters × List Record × σ) Unit := do
  put (.visited name v)
  action name v

/-- Does what a script says, and lists what happens to the parameters. -/
def Script.run : Script σ → Act (Parameters × List Record × σ) Unit
  | .done => return
  | .fail e => Act.fail e
  | .look change next => .of fun (p, records, s) =>
    (run (next p.values (change s))).on (p, records, change s)
  | .fixup placeholder literal next => .of fun (p, records, s) =>
    let (result, q, records, s) := (fixupAct placeholder literal).on (p, records, s)
    (run (next result)).on
      (q, records ++ [.fixedUp p.values placeholder literal result q.values], s)
  | .foreach action next => .of fun (p, records, s) =>
    let (result, q, records, s) :=
      (Parameters.foreach (watched fun name v => run (action name v))).on
        (p, records ++ [.opened p.values], s)
    (run (next result)).on (q, records ++ [.closed q.values result], s)

/-! ### What can happen next -/

/-- The values, and for each running walk what it has not visited yet, the innermost walk first. -/
structure Standing where
  values : Table String Value
  pending : List (List (String × Value))

/-- What can happen as things stand, and how they stand then. A walk that ends without an error has
visited all, and fixing up is refused while there is a walk. -/
inductive Follows : Standing → Record → Standing → Prop
  | opened (t : Table String Value) (pending : List (List (String × Value))) :
      Follows ⟨t, pending⟩ (.opened t) ⟨t, t.entries :: pending⟩
  | visited (t : Table String Value) (name : String) (v : Value) (rest : List (String × Value))
      (pending : List (List (String × Value))) :
      Follows ⟨t, ((name, v) :: rest) :: pending⟩ (.visited name v) ⟨t, rest :: pending⟩
  | closed (t : Table String Value) {result : Except Error Unit} {rest : List (String × Value)}
      (pending : List (List (String × Value))) (h : result = .ok () → rest = []) :
      Follows ⟨t, rest :: pending⟩ (.closed t result) ⟨t, pending⟩
  | refused (t : Table String Value) (placeholder literal : Option String)
      (rest : List (String × Value)) (pending : List (List (String × Value))) :
      Follows ⟨t, rest :: pending⟩
        (.fixedUp t placeholder literal (.error (.misuse .fixupWhileIterating)) t)
        ⟨t, rest :: pending⟩
  | fixedUp {t u : Table String Value} {placeholder literal : Option String}
      {result : Except Error Unit}
      (h : (fixupAct placeholder literal).on (⟨t, 0⟩, ()) = (result, ⟨u, 0⟩, ())) :
      Follows ⟨t, []⟩ (.fixedUp t placeholder literal result u) ⟨u, []⟩

/-- What happens one after another. -/
inductive Course : Standing → List Record → Standing → Prop
  | nil (a : Standing) : Course a [] a
  | cons {a b c : Standing} {x : Record} {records : List Record} (h : Follows a x b)
      (hs : Course b records c) : Course a (x :: records) c

/-- A list of what happens in which each walk that begins also ends, with the visits that belong to
none of these walks. -/
inductive Stretch : List Record → List (String × Value) → Prop
  | nil : Stretch [] []
  | visited {name : String} {v : Value} {records : List Record} {visits : List (String × Value)}
      (h : Stretch records visits) : Stretch (.visited name v :: records) ((name, v) :: visits)
  | fixedUp {t u : Table String Value} {placeholder literal : Option String}
      {result : Except Error Unit} {records : List Record} {visits : List (String × Value)}
      (h : Stretch records visits) :
      Stretch (.fixedUp t placeholder literal result u :: records) visits
  | walk {t u : Table String Value} {result : Except Error Unit} {inside records : List Record}
      {own visits : List (String × Value)} (hinside : Stretch inside own)
      (h : Stretch records visits) :
      Stretch (.opened t :: (inside ++ .closed u result :: records)) visits

variable {a b c : Standing} {x : Record} {records others : List Record} {p : Parameters}
  {visits : List (String × Value)} {pending : List (List (String × Value))} {s : σ}

lemma Course.single (h : Follows a x b) : Course a [x] b := .cons h (.nil b)

lemma Course.append (h : Course a records b) (h' : Course b others c) :
    Course a (records ++ others) c := by
  induction h with
  | nil => exact h'
  | cons h _ ih => exact .cons h (ih h')

lemma course_append_iff :
    Course a (records ++ others) c ↔ ∃ b, Course a records b ∧ Course b others c := by
  constructor
  · intro h
    induction records generalizing a with
    | nil => exact ⟨a, .nil a, h⟩
    | cons x records ih =>
      cases h with
      | cons hx h =>
        obtain ⟨b, hb, hc⟩ := ih h
        exact ⟨b, .cons hx hb, hc⟩
  · rintro ⟨b, hb, hc⟩
    exact hb.append hc

lemma Stretch.append {own : List (String × Value)} (h : Stretch records visits)
    (h' : Stretch others own) : Stretch (records ++ others) (visits ++ own) := by
  induction h with
  | nil => exact h'
  | visited _ ih => exact .visited ih
  | fixedUp _ ih => exact .fixedUp ih
  | walk hinside _ _ ih =>
    rw [List.cons_append, List.append_assoc]
    exact .walk hinside ih

/-! ### Runs of scripts -/

/-- An act keeps the count of running walks, and adds to the list what can happen as things stand;
walks that begin in the act end in it. -/
def Orderly (a : Act (Parameters × List Record × σ) Unit) : Prop :=
  ∀ (p : Parameters) (records : List Record) (s : σ) (pending : List (List (String × Value))),
    pending.length = p.walks → ∃ result q more t,
      a.on (p, records, s) = (result, q, records ++ more, t) ∧ q.walks = p.walks ∧
        Course ⟨p.values, pending⟩ more ⟨q.values, pending⟩ ∧ Stretch more []

/-- Fixing up keeps the count of running walks. -/
lemma walks_of_fixup {q : Parameters} {placeholder literal : Option String}
    (h : p.fixup placeholder literal = .ok q) : q.walks = p.walks := by
  unfold fixup at h
  split at h
  case isTrue => cases h
  split at h
  case h_1 => cases h
  case h_2 => split_ifs at h <;> obtain rfl := Except.ok.inj h <;> rfl
  case h_3 =>
    obtain rfl := Except.ok.inj h
    rfl

/-- Fixing up does what can happen as things stand. -/
lemma on_fixupAct (h : pending.length = p.walks) (placeholder literal : Option String)
    (records : List Record) (s : σ) : ∃ result q,
      (fixupAct placeholder literal).on (p, records, s) = (result, q, records, s) ∧
        q.walks = p.walks ∧
        Follows ⟨p.values, pending⟩ (.fixedUp p.values placeholder literal result q.values)
          ⟨q.values, pending⟩ := by
  obtain ⟨values, walks⟩ := p
  cases pending with
  | cons rest pending =>
    have hwalks : walks ≠ 0 := by
      rintro rfl
      cases h
    refine ⟨.error (.misuse .fixupWhileIterating), ⟨values, walks⟩, ?_, rfl, .refused ..⟩
    simp [fixupAct, fixup, hwalks]
  | nil =>
    obtain rfl : walks = 0 := h.symm
    cases hfixup : (⟨values, 0⟩ : Parameters).fixup placeholder literal with
    | error e =>
      refine ⟨.error e, ⟨values, 0⟩, ?_, rfl, .fixedUp ?_⟩ <;> simp [fixupAct, hfixup]
    | ok q =>
      obtain ⟨after, walks⟩ := q
      obtain rfl : walks = 0 := walks_of_fixup hfixup
      refine ⟨.ok (), ⟨after, 0⟩, ?_, rfl, .fixedUp ?_⟩ <;> simp [fixupAct, hfixup]

lemma on_watched (action : String → Value → Act (Parameters × List Record × σ) Unit) (name : String)
    (v : Value) (p : Parameters) (records : List Record) (s : σ) :
    (watched action name v).on (p, records, s) =
      (action name v).on (p, records ++ [.visited name v], s) := by
  simp [watched, put]

/-- The visits of a walk go through the entries from the first on. If one fails, it is the last. -/
lemma on_visit {action : String → Value → Act (Parameters × List Record × σ) Unit}
    (haction : ∀ name v, Orderly (action name v)) (entries : List (String × Value))
    (h : pending.length + 1 = p.walks) (records : List Record) (s : σ) :
    ∃ result q more visits rest t,
      (visit (watched action) entries).on (p, records, s) = (result, q, records ++ more, t) ∧
        q.walks = p.walks ∧
        Course ⟨p.values, entries :: pending⟩ more ⟨q.values, rest :: pending⟩ ∧
        Stretch more visits ∧ (result = .ok () → rest = []) := by
  induction entries generalizing p records s with
  | nil =>
    exact ⟨.ok (), p, [], [], [], s, by simp [visit], rfl, .nil _, .nil, fun _ => rfl⟩
  | cons e entries ih =>
    obtain ⟨name, v⟩ := e
    obtain ⟨result, q, more, t, hon, hwalks, hcourse, hstretch⟩ :=
      haction name v p (records ++ [.visited name v]) s (entries :: pending) h
    have hvisited := Follows.visited p.values name v entries pending
    cases result with
    | error e =>
      refine ⟨.error e, q, .visited name v :: more, _, entries, t, ?_, hwalks,
        .cons hvisited hcourse, .visited hstretch, nofun⟩
      simp [visit, on_watched, hon]
    | ok =>
      obtain ⟨result, q', others, visits, rest, u, hvisit, hwalks', hothers, hvisits, hrest⟩ :=
        ih (h.trans hwalks.symm) (records ++ [.visited name v] ++ more) t
      refine ⟨result, q', .visited name v :: (more ++ others), _, rest, u, ?_,
        hwalks'.trans hwalks, .cons hvisited (hcourse.append hothers),
        .visited (hstretch.append hvisits), hrest⟩
      rw [visit, Act.on_bind, on_watched, hon]
      simpa using hvisit

/-- A walk ends as it began but for the values, of which it has visited all if it did not fail. -/
lemma on_foreach {action : String → Value → Act (Parameters × List Record × σ) Unit}
    (haction : ∀ name v, Orderly (action name v)) (h : pending.length = p.walks)
    (records : List Record) (s : σ) : ∃ result q more t,
      (Parameters.foreach (watched action)).on (p, records ++ [.opened p.values], s) =
          (result, q, records ++ .opened p.values :: more, t) ∧ q.walks = p.walks ∧
        Course ⟨p.values, pending⟩ (.opened p.values :: (more ++ [.closed q.values result]))
          ⟨q.values, pending⟩ ∧
        Stretch (.opened p.values :: (more ++ [.closed q.values result])) [] := by
  obtain ⟨result, q, more, visits, rest, t, hvisit, hwalks, hcourse, hstretch, hrest⟩ :=
    on_visit (p := { p with walks := p.walks + 1 }) haction p.values.entries
      (congrArg (· + 1) h) (records ++ [.opened p.values]) s
  refine ⟨result, { q with walks := q.walks - 1 }, more, t, ?_, ?_, ?_, .walk hstretch .nil⟩
  · simp [Parameters.foreach, hvisit]
  · show q.walks - 1 = p.walks
    rw [hwalks]
    rfl
  · have hclosed := Follows.closed q.values pending hrest
    exact .cons (.opened p.values pending) (hcourse.append (.single hclosed))

lemma orderly_run (script : Script σ) : Orderly script.run := by
  induction script with
  | done =>
    intro p records s pending h
    exact ⟨.ok (), p, [], s, by simp [Script.run], rfl, .nil _, .nil⟩
  | fail e =>
    intro p records s pending h
    exact ⟨.error e, p, [], s, by simp [Script.run], rfl, .nil _, .nil⟩
  | look change next ih =>
    intro p records s pending h
    exact ih p.values (change s) p records (change s) pending h
  | fixup placeholder literal next ih =>
    intro p records s pending h
    obtain ⟨result, q, hfixup, hwalks, hfollows⟩ := on_fixupAct h placeholder literal records s
    obtain ⟨result', q', more, t, hon, hwalks', hcourse, hstretch⟩ := ih result q
      (records ++ [.fixedUp p.values placeholder literal result q.values]) s pending
      (h.trans hwalks.symm)
    refine ⟨result', q', _ :: more, t, ?_, hwalks'.trans hwalks, .cons hfollows hcourse,
      .fixedUp hstretch⟩
    simp [Script.run, hfixup, hon]
  | foreach action next ihaction ihnext =>
    intro p records s pending h
    obtain ⟨result, q, inside, t, hforeach, hwalks, hwalk, hinside⟩ :=
      on_foreach ihaction h records s
    obtain ⟨result', q', more, u, hon, hwalks', hcourse, hstretch⟩ := ihnext result q
      (records ++ .opened p.values :: inside ++ [.closed q.values result]) t pending
      (h.trans hwalks.symm)
    refine ⟨result', q', .opened p.values :: (inside ++ [.closed q.values result]) ++ more, u, ?_,
      hwalks'.trans hwalks, hwalk.append hcourse, hinside.append hstretch⟩
    rw [Script.run, Act.on_of]
    simp only [hforeach]
    simpa using hon

/-! ### Walks that are running -/

/-- Whether a walk begins. -/
def Record.isOpened : Record → Bool
  | opened _ => true
  | _ => false

/-- Whether a walk ends. -/
def Record.isClosed : Record → Bool
  | closed _ _ => true
  | _ => false

/-- The number of walks that have begun and not ended. -/
def running (records : List Record) : Nat :=
  records.countP Record.isOpened - records.countP Record.isClosed

/-- Each walk that has begun and not ended is one of those that stand. -/
lemma Course.length_pending (h : Course a records b) :
    a.pending.length + records.countP Record.isOpened =
      b.pending.length + records.countP Record.isClosed := by
  induction h with
  | nil => rfl
  | cons hx _ ih =>
    cases hx <;> simp_all [List.countP_cons, Record.isOpened, Record.isClosed] <;> omega

lemma Course.length_pending_eq {t : Table String Value} (h : Course ⟨t, []⟩ records b) :
    b.pending.length = running records := by
  have hlength := h.length_pending
  rw [List.length_nil] at hlength
  rw [running]
  omega

lemma Stretch.countP_eq (h : Stretch records visits) :
    records.countP Record.isOpened = records.countP Record.isClosed := by
  induction h with
  | nil => rfl
  | visited _ ih => simpa [Record.isOpened, Record.isClosed] using ih
  | fixedUp _ ih => simpa [Record.isOpened, Record.isClosed] using ih
  | walk _ _ hinside ih =>
    simp only [List.countP_cons, List.countP_append, Record.isOpened, Record.isClosed, hinside, ih]
    rfl

/-- While a walk is running, the values stay, and its own visits go through what it has not visited
yet. -/
lemma Stretch.eq_append {t : Table String Value} {rest : List (String × Value)}
    (h : Stretch records visits) (hcourse : Course ⟨t, rest :: pending⟩ records b) :
    ∃ left, b = ⟨t, left :: pending⟩ ∧ rest = visits ++ left := by
  induction h generalizing rest pending b with
  | nil =>
    cases hcourse
    exact ⟨rest, rfl, rfl⟩
  | visited _ ih =>
    cases hcourse with
    | cons hx hcourse =>
      cases hx
      obtain ⟨left, rfl, rfl⟩ := ih hcourse
      exact ⟨left, rfl, rfl⟩
  | fixedUp _ ih =>
    cases hcourse with
    | cons hx hcourse =>
      cases hx
      exact ih hcourse
  | walk _ _ ihinside ih =>
    cases hcourse with
    | cons hx hcourse =>
      cases hx
      obtain ⟨c, hinside, hcourse⟩ := course_append_iff.mp hcourse
      obtain ⟨left, rfl, -⟩ := ihinside hinside
      cases hcourse with
      | cons hx hcourse =>
        cases hx
        exact ih hcourse

/-! ### Fixing up -/

lemma fixup_ne_refused (h : p.walks = 0) (placeholder literal : Option String) :
    p.fixup placeholder literal ≠ .error (.misuse .fixupWhileIterating) := by
  unfold fixup
  rw [if_neg (not_not_intro h)]
  split
  case h_1 => nofun
  case h_2 => split_ifs <;> nofun
  case h_3 => nofun

/-- What fixing up comes to, by the walks that are running. -/
lemma Follows.of_fixedUp {t u : Table String Value} {placeholder literal : Option String}
    {result : Except Error Unit}
    (h : Follows a (.fixedUp t placeholder literal result u) b) :
    (result = .error (.misuse .fixupWhileIterating) ↔ 0 < a.pending.length) ∧
      (0 < a.pending.length → u = t) ∧
      (a.pending.length = 0 →
        (fixupAct placeholder literal).on (⟨t, 0⟩, ()) = (result, ⟨u, 0⟩, ())) := by
  cases h with
  | refused => exact ⟨iff_of_true rfl (Nat.succ_pos _), fun _ => rfl, nofun⟩
  | fixedUp h =>
    refine ⟨iff_of_false ?_ (Nat.lt_irrefl 0), nofun, fun _ => h⟩
    rintro rfl
    have hne := fixup_ne_refused (p := ⟨t, 0⟩) rfl placeholder literal
    cases hfixup : (⟨t, 0⟩ : Parameters).fixup placeholder literal with
    | ok q => simp [fixupAct, hfixup] at h
    | error e =>
      obtain ⟨rfl, -⟩ : e = .misuse .fixupWhileIterating ∧ t = u := by
        simpa [fixupAct, hfixup] using h
      exact hne hfixup

/-- Whatever is done with parameters, and however walks over them are nested and fail, fixing up is
refused exactly while one of the walks is running, and changes nothing then; otherwise it does what
it does to parameters that were never walked over. The values are the same at the start and at the
end of a walk, its visits go through those of the start in their order, and through all of them
unless it fails. Each walk that begins ends, and no more walks are running then than before it. -/
theorem fixup_refused_iff (script : Script σ) (values : Table String Value) (s : σ) :
    let answer := script.run.on (⟨values, 0⟩, [], s)
    let records := answer.2.2.1
    (∀ before t placeholder literal result u after,
      records = before ++ .fixedUp t placeholder literal result u :: after →
        (result = .error (.misuse .fixupWhileIterating) ↔ 0 < running before) ∧
        (0 < running before → u = t) ∧
        (running before = 0 →
          (fixupAct placeholder literal).on (⟨t, 0⟩, ()) = (result, ⟨u, 0⟩, ()))) ∧
    (∀ before t inside own u result after,
      records = before ++ .opened t :: (inside ++ .closed u result :: after) →
        Stretch inside own →
          u = t ∧ own <+: t.entries ∧ (result = .ok () → own = t.entries) ∧
          running (before ++ .opened t :: (inside ++ [.closed u result])) = running before) ∧
    Stretch records [] ∧ answer.2.1.walks = 0 := by
  obtain ⟨result, q, records, t, hon, hwalks, hcourse, hstretch⟩ :=
    orderly_run script ⟨values, 0⟩ [] s [] rfl
  rw [List.nil_append] at hon
  intro answer records'
  obtain rfl : records' = records := by simp [records', answer, hon]
  refine ⟨?_, ?_, hstretch, by simpa [answer, hon] using hwalks⟩
  · intro before t placeholder literal result u after hrecords
    rw [hrecords] at hcourse
    obtain ⟨a, hbefore, hcourse⟩ := course_append_iff.mp hcourse
    cases hcourse with
    | cons hx _ =>
      rw [← hbefore.length_pending_eq]
      exact hx.of_fixedUp
  · intro before t inside own u result after hrecords hinside
    rw [hrecords] at hcourse
    obtain ⟨a, hbefore, hcourse⟩ := course_append_iff.mp hcourse
    have hrunning : running (before ++ .opened t :: (inside ++ [.closed u result])) =
        running before := by
      have hwalk : Stretch (.opened t :: (inside ++ [.closed u result])) [] := .walk hinside .nil
      simp only [running, List.countP_append, hwalk.countP_eq]
      omega
    cases hcourse with
    | cons hx hcourse =>
      cases hx
      obtain ⟨b, hbetween, hcourse⟩ := course_append_iff.mp hcourse
      obtain ⟨left, rfl, hentries⟩ := hinside.eq_append hbetween
      cases hcourse with
      | cons hx _ =>
        cases hx with
        | closed _ _ hleft =>
          refine ⟨rfl, ⟨left, hentries.symm⟩, fun hok => ?_, hrunning⟩
          rw [hentries, hleft hok, List.append_nil]

/-- Fixing up is refused to a walk, which fails with that, and works when the walk has ended. -/
example :
    let passOn : Except Error Unit → Script Unit
      | .ok _ => .done
      | .error e => .fail e
    let fix : Script Unit := .fixup (some "user") (some "all") passOn
    let script : Script Unit := .foreach (fun _ _ => fix) fun _ => fix
    script.run.on (⟨⟨[("user", .text "all")]⟩, 0⟩, [], ()) |>.2.1 =
      ⟨⟨[("all", .text "all")]⟩, 0⟩ := rfl

end ChatCommands.Parameters
