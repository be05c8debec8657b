import VoucherDesk.Arguments.Reader
import VoucherDesk.Proofs.Failure
import VoucherDesk.Proofs.Value.Fields

/-!
# Where given values come from

Every value that a command line gives stands under the field of an argument that the command
line has, and is what the argument makes of its word, or is a word that stands by itself.
-/

namespace VoucherDesk.Arguments

/-- Whether a value is one that a named argument gives. -/
def Named.Gives (n : Named) (v : Value) : Prop :=
  match n.action with
  | .help => False
  | .flag b => v = .bool b
  | .word kind => ∃ s, kind.read s = .ok v

/-- Where a value under a field comes from on a command line. -/
inductive Parser.Gives (p : Parser) (field : String) (v : Value) : Prop where
  /-- A named argument sets the field. -/
  | named (n : Named) (mem : n ∈ p.allNamed) (sets : n.field = field) (gives : n.Gives v)
  /-- A word stands by itself. -/
  | word (s : String) (standing : p.standing = .word field) (value : v = .text s)

/-- Every value that has been read comes from the command line. -/
def Parser.Explains (p : Parser) (fields : Fields) : Prop := ∀ q ∈ fields, p.Gives q.1 q.2

/-- The argument that a text names is one of the command line, if there is one of that name. -/
def Mark.IsOf (p : Parser) : Mark → Prop
  | .named m => ∀ n, m.named = some n → n ∈ p.allNamed
  | _ => True

variable {p : Parser}

/-- A name stands for one of the named arguments. -/
theorem mem_allNamed {name : String} {n : Named} (h : (name, n) ∈ p.allNames) : n ∈ p.allNamed := by
  obtain ⟨m, hm, hname⟩ := List.mem_flatMap.mp h
  obtain ⟨_, -, heq⟩ := List.mem_map.mp hname
  cases heq
  exact hm

/-- A name that is looked up stands for one of the named arguments. -/
theorem mem_allNamed_of_lookup {name : String} {n : Named} (h : p.allNames.lookup name = some n) :
    n ∈ p.allNamed := by
  obtain ⟨before, after, heq, -⟩ := List.lookup_eq_some_iff.mp h
  exact mem_allNamed (heq ▸ List.mem_append_right _ (List.mem_cons_self ..))

/-- What a text may be short for are named arguments. -/
theorem candidates_isOf {s : String} {m : Match} (h : m ∈ candidates p s) :
    (Mark.named m).IsOf p := by
  intro n hn
  unfold candidates at h
  split at h
  · obtain ⟨⟨name, n'⟩, hmem, rfl⟩ := List.mem_map.mp h
    cases hn
    exact mem_allNamed (List.mem_filter.mp hmem).1
  · obtain ⟨⟨name, n'⟩, hmem, hm⟩ := List.mem_filterMap.mp h
    simp only at hm
    split at hm
    · cases hm
      cases hn
      exact mem_allNamed hmem
    · split at hm
      · cases hm
        cases hn
        exact mem_allNamed hmem
      · cases hm
  · cases h

/-- A text is marked with a named argument of the command line, if with any. -/
theorem markOf_isOf {s : String} {mark : Mark} (h : markOf p s = .ok mark) : mark.IsOf p := by
  unfold markOf at h
  split at h
  · cases h
    trivial
  · split at h
    · next n hlookup =>
      cases h
      intro n' hn
      cases hn
      exact mem_allNamed_of_lookup hlookup
    · split at h
      · cases h
        trivial
      · dsimp only at h
        split at h
        · next n hlookup =>
          cases h
          intro n' hn
          cases hn
          split at hlookup
          · exact mem_allNamed_of_lookup hlookup
          · cases hlookup
        · split at h
          · next m hone =>
            cases h
            exact candidates_isOf (hone ▸ List.mem_singleton_self m)
          · split at h
            · cases h
              trivial
            · cases h
              intro n hn
              cases hn
          · cases h

/-- So are all texts. -/
theorem markAll_isOf {texts : List String} {marks : List (String × Mark)}
    (h : markAll p texts = .ok marks) : ∀ q ∈ marks, q.2.IsOf p := by
  induction texts generalizing marks with
  | nil =>
    cases h
    exact List.forall_mem_nil _
  | cons s rest ih =>
    unfold markAll at h
    split at h
    · cases h
      refine List.forall_mem_cons.mpr ⟨trivial, fun q hq => ?_⟩
      obtain ⟨t, -, rfl⟩ := List.mem_map.mp hq
      trivial
    · obtain ⟨mark, hmark, h⟩ := bind_eq_ok.mp h
      obtain ⟨later, hlater, h⟩ := bind_eq_ok.mp h
      cases h
      exact List.forall_mem_cons.mpr ⟨markOf_isOf hmark, ih hlater⟩

/-- An argument without a word in the same text is done itself. -/
theorem bareSteps_mem {n : Named} {next : Option String} {steps : Steps}
    (h : bareSteps n next = .ok steps) : ∀ q ∈ steps.steps, q.1 = n := by
  unfold bareSteps at h
  split at h
  · split at h
    · cases h
      exact List.forall_mem_singleton.mpr rfl
    · cases h
  · cases h
    exact List.forall_mem_singleton.mpr rfl

/-- Short names that are run together are all those of named arguments. -/
theorem joinedSteps_mem {next : Option String} {n : Named} (hn : n ∈ p.allNamed)
    {isShort isJoined : Bool} {word : List Char} {steps : Steps}
    (h : joinedSteps p next n isShort isJoined word = .ok steps) :
    ∀ q ∈ steps.steps, q.1 ∈ p.allNamed := by
  fun_induction joinedSteps p next n isShort isJoined word generalizing steps with
  | case1 n isShort isJoined htakes =>
    cases h
    exact List.forall_mem_singleton.mpr hn
  | case2 n isShort isJoined htakes => cases h
  | case3 n isShort isJoined c rest htakes =>
    cases h
    exact List.forall_mem_singleton.mpr hn
  | case4 n isShort isJoined c rest htakes hrefused => cases h
  | case5 n isShort isJoined c rest htakes hfits hlookup =>
    cases h
    exact List.forall_mem_singleton.mpr hn
  | case6 n isShort isJoined c htakes hfits m hlookup =>
    obtain ⟨later, hlater, h⟩ := bind_eq_ok.mp h
    cases h
    refine List.forall_mem_cons.mpr ⟨hn, fun q hq => ?_⟩
    exact bareSteps_mem hlater q hq ▸ mem_allNamed_of_lookup hlookup
  | case7 n isShort isJoined c htakes hfits m hlookup _ word ih =>
    obtain ⟨later, hlater, h⟩ := bind_eq_ok.mp h
    cases h
    exact List.forall_mem_cons.mpr ⟨hn, ih (mem_allNamed_of_lookup hlookup) hlater⟩
  | case8 n isShort isJoined c htakes hfits m hlookup _ d word hd ih =>
    obtain ⟨later, hlater, h⟩ := bind_eq_ok.mp h
    cases h
    exact List.forall_mem_cons.mpr ⟨hn, ih (mem_allNamed_of_lookup hlookup) hlater⟩

/-- What a match asks to be done is done to named arguments. -/
theorem stepsOf_mem {s : String} {m : Match} (hm : (Mark.named m).IsOf p) {next : Option String}
    {steps : Steps} (h : stepsOf p s m next = .ok steps) : ∀ q ∈ steps.steps, q.1 ∈ p.allNamed := by
  unfold stepsOf at h
  split at h
  · cases h
    exact List.forall_mem_nil _
  · next n hn =>
    split at h
    · exact fun q hq => bareSteps_mem h q hq ▸ hm n hn
    · exact joinedSteps_mem (hm n hn) h

/-- Values that come from a command line stay so when another one is put. -/
theorem Parser.Explains.put {fields : Fields} (h : p.Explains fields) {name : String} {v : Value}
    (hv : p.Gives name v) : p.Explains (fields.put name v) := by
  intro q hq
  rcases Fields.mem_put hq with rfl | hold
  · exact hv
  · exact h q hold

/-- A named argument puts a value that it gives. -/
theorem perform_explains {g g' : Given} {n : Named} {word : Option String} (hn : n ∈ p.allNamed)
    (hg : p.Explains g.values) (h : perform g n word = .ok g') : p.Explains g'.values := by
  unfold perform at h
  split at h
  · cases h
  · next b hflag =>
    cases h
    exact hg.put (.named n hn rfl (by simp [Named.Gives, hflag]))
  · next kind hword =>
    split at h
    · next v hread =>
      cases h
      exact hg.put (.named n hn rfl (by rw [Named.Gives, hword]; exact ⟨_, hread⟩))
    · cases h

/-- So do the named arguments that a text asks for. -/
theorem performAll_explains {g g' : Given} {steps : Steps}
    (hsteps : ∀ q ∈ steps.steps, q.1 ∈ p.allNamed) (hg : p.Explains g.values)
    (h : performAll g steps = .ok g') : p.Explains g'.values := by
  obtain ⟨last, hlast, h⟩ := bind_eq_ok.mp h
  cases h
  exact foldlM_induction (P := fun g => p.Explains g.values) hlast hg
    fun q hq d e hd he => perform_explains (hsteps q hq) hd he

/-- A word that stands by itself is put where the command line has a place for it. -/
theorem takeWord_explains {g : Given} (hg : p.Explains g.values) (word : String) :
    p.Explains (takeWord p g word).values := by
  unfold takeWord
  split
  · next field hstanding => exact hg.put (.word word hstanding rfl)
  · exact hg

/-- Every value that is taken from marked texts comes from the command line. -/
theorem takeAll_explains {marks : List (String × Mark)} (hmarks : ∀ q ∈ marks, q.2.IsOf p)
    {g g' : Given} (hg : p.Explains g.values) (h : takeAll p marks g = .ok g') :
    p.Explains g'.values := by
  fun_induction takeAll p marks g with
  | case1 g =>
    cases h
    exact hg
  | case2 s m g word later ihlater ihall =>
    obtain ⟨hm, hrest⟩ := List.forall_mem_cons.mp hmarks
    obtain ⟨steps, hsteps, h⟩ := bind_eq_ok.mp h
    obtain ⟨g1, hg1, h⟩ := bind_eq_ok.mp h
    have hexplains := performAll_explains (stepsOf_mem hm hsteps) hg hg1
    split at h
    · exact ihlater g1 (List.forall_mem_cons.mp hrest).2 hexplains h
    · exact ihall g1 hrest hexplains h
  | case3 s m g rest hrest ih =>
    obtain ⟨hm, hrest⟩ := List.forall_mem_cons.mp hmarks
    obtain ⟨steps, hsteps, h⟩ := bind_eq_ok.mp h
    obtain ⟨g1, hg1, h⟩ := bind_eq_ok.mp h
    exact ih g1 hrest (performAll_explains (stepsOf_mem hm hsteps) hg hg1) h
  | case4 s rest g hclosed ih => exact ih (List.forall_mem_cons.mp hmarks).2 hg h
  | case5 s rest g hopen hall =>
    cases h
    exact hg
  | case6 s g hopen hall dashes later ih =>
    exact ih (List.forall_mem_cons.mp (List.forall_mem_cons.mp hmarks).2).2
      (takeWord_explains hg s) h
  | case7 s g hopen hall rest hrest ih =>
    exact ih (List.forall_mem_cons.mp hmarks).2 (takeWord_explains hg s) h
  | case8 s g word later hclosed ih => exact ih (List.forall_mem_cons.mp hmarks).2 hg h
  | case9 s g word later hopen hall =>
    cases h
    exact hg
  | case10 s g word later hopen hall ih =>
    exact ih (List.forall_mem_cons.mp (List.forall_mem_cons.mp hmarks).2).2
      (takeWord_explains hg word) h
  | case11 s g rest hrest ih => exact ih (List.forall_mem_cons.mp hmarks).2 hg h

/-- Every value that is read comes from the command line. -/
theorem Parser.read_explains {texts : List String} {g : Given} (h : p.read texts = .ok g) :
    p.Explains g.values := by
  obtain ⟨marks, hmarks, h⟩ := bind_eq_ok.mp h
  obtain ⟨last, hlast, h⟩ := bind_eq_ok.mp h
  split at h
  · cases h
    exact takeAll_explains (markAll_isOf hmarks) (fun _ hq => absurd hq List.not_mem_nil) hlast
  · cases h

/-- Every value that a tool reads comes from its own command line or from that of a command. -/
theorem Tool.read_explains {t : Tool} {texts : List String} {r : Reading}
    (h : t.read texts = .ok r) :
    ∀ q ∈ r.values, t.parser.Gives q.1 q.2 ∨ ∃ c ∈ t.commands, c.2.Gives q.1 q.2 := by
  obtain ⟨g, hg, h⟩ := bind_eq_ok.mp h
  have hown := Parser.read_explains (mapError_eq_ok.mp hg)
  dsimp only at h
  split at h
  · next name rest field choices hcommand hstanding =>
    split at h
    · cases h
    · next p hlookup =>
      obtain ⟨g', hg', h⟩ := bind_eq_ok.mp h
      have hcommand := Parser.read_explains (mapError_eq_ok.mp hg')
      obtain ⟨before, after, hcommands, -⟩ := List.lookup_eq_some_iff.mp hlookup
      have hmem : (name, p) ∈ t.commands :=
        hcommands ▸ List.mem_append_right _ (List.mem_cons_self ..)
      obtain ⟨both, hboth, h⟩ := bind_eq_ok.mp h
      cases hboth
      dsimp only at h
      split at h
      · cases h
        intro q hq
        rcases List.mem_append.mp (Fields.mem_of_mem_ofPairs hq) with hfirst | hlater
        · exact Or.inl (hown q hfirst)
        · exact Or.inr ⟨_, hmem, hcommand q hlater⟩
      · cases h
  · obtain ⟨both, hboth, h⟩ := bind_eq_ok.mp h
    cases hboth
    dsimp only at h
    split at h
    · cases h
      exact fun q hq => Or.inl (hown q hq)
    · cases h

/-- A full name is marked as such. -/
theorem markOf_of_lookup {s : String} {n : Named} (hdash : s.startsWith "-" = true)
    (h : p.allNames.lookup s = some n) :
    markOf p s = .ok (.named { named := some n, name := s }) := by
  simp only [markOf, hdash, h]
  rfl

/-- The texts are marked one by one up to two hyphens. -/
theorem markAll_cons {s : String} {mark : Mark} {rest : List String}
    {marks : List (String × Mark)} (hne : s ≠ "--") (hmark : markOf p s = .ok mark)
    (hrest : markAll p rest = .ok marks) : markAll p (s :: rest) = .ok ((s, mark) :: marks) := by
  rw [markAll, if_neg hne, hmark, hrest]
  rfl

/-- A text with a hyphen that can be no name and no number is marked as an unknown name. -/
theorem markOf_of_unknown {s : String} (hdash : s.startsWith "-" = true) (hne : s ≠ "-")
    (hlookup : p.allNames.lookup s = none) (hcut : cutAtEquals s = (s, none))
    (hcandidates : candidates p s = []) (hnumber : isNegativeNumber s = false)
    (hblank : s.toList.contains ' ' = false) :
    markOf p s = .ok (.named { named := none, name := s }) := by
  simp only [markOf, hdash, hne, hlookup, hcut, hcandidates, hnumber, hblank]
  rfl

/-- What a tool reads is what its own command line and that of a command read together. -/
theorem Tool.read_of_command {t : Tool} {texts rest : List String} {name field : String}
    {choices : List (String × String)} {values values' : Fields}
    (hown : t.parser.read texts = .ok { values, command := some (name :: rest) })
    (hstanding : t.parser.standing = .command field choices) (hp : t.commands.lookup name = some p)
    (hcommand : p.read rest = .ok { values := values' }) :
    t.read texts =
      .ok { command := some name, values := Fields.ofPairs (values ++ values') } := by
  have hfirst (f : Stop → Parser × Stop) := mapError_eq_ok (f := f).mpr hown
  have hsecond (f : Stop → Parser × Stop) := mapError_eq_ok (f := f).mpr hcommand
  simp only [Tool.read, hfirst, hsecond, bind, Except.bind, hstanding, hp]
  rfl

end VoucherDesk.Arguments
