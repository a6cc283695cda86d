import StackExport.Proofs.ResourceCompleteness
/-!
A grammar of streams that the writer takes.

Its phrases are values, runs of list items, map entries, body keys and blocks. A phrase is well
nested, each of its keys stands before a complete value, and from a draft in which it fits the
writer goes through it whatever it decides about its keys, so `write_ok_of_body` needs no hypothesis
about the rules.
-/
namespace StackExport.Proofs.WritableStream

open Relation
open StackExport
open StackExport.Resource
open StackExport.Proofs.StreamNesting
open StackExport.Proofs.WriterRun
open StackExport.Proofs.ResourceCompleteness

variable {c : Context} {d : Draft} {key : MappingKey} {run rest value : List Event}

inductive Part where
  | value
  | items
  | entries
  | body
  | blocks

/-- The runs of events that make up a part of a resource. -/
inductive Phrase : Part → List Event → Prop where
  | scalar (s : Scalar) : Phrase .value [.scalar s]
  | list {items : List Event} (h : Phrase .items items) :
      Phrase .value (.start .sequence :: (items ++ [.stop .sequence]))
  | map {entries : List Event} (h : Phrase .entries entries) :
      Phrase .value (.start .mapping :: (entries ++ [.stop .mapping]))
  | document {value : List Event} (h : Phrase .value value) :
      Phrase .value (.start .json :: (value ++ [.stop .json]))
  | noItem : Phrase .items []
  | item {value items : List Event} (hv : Phrase .value value) (hi : Phrase .items items) :
      Phrase .items (value ++ items)
  | noEntry : Phrase .entries []
  | entry {key : MappingKey} {value entries : List Event} (hk : key.shape.isBlock = false)
      (hv : Phrase .value value) (he : Phrase .entries entries) :
      Phrase .entries (.key key :: (value ++ entries))
  | noKey : Phrase .body []
  | assignment {key : MappingKey} {value body : List Event} (hk : key.shape.isBlock = false)
      (hv : Phrase .value value) (hb : Phrase .body body) :
      Phrase .body (.key key :: (value ++ body))
  | blockList {key : MappingKey} {blocks body : List Event} (hk : key.shape = .blockList)
      (hl : Phrase .blocks blocks) (hb : Phrase .body body) :
      Phrase .body (.key key :: .start .sequence :: (blocks ++ .stop .sequence :: body))
  | blockObject {key : MappingKey} {name : String} {inner body : List Event}
      (hk : key.shape = .blockObject) (hi : Phrase .body inner) (hb : Phrase .body body) :
      Phrase .body (.key key :: .start (.block name) :: (inner ++ .stop .block :: body))
  | noBlock : Phrase .blocks []
  | block {name : String} {inner blocks : List Event} (hi : Phrase .body inner)
      (hl : Phrase .blocks blocks) :
      Phrase .blocks (.start (.block name) :: (inner ++ .stop .block :: blocks))
  | skipped {text : String} {blocks : List Event} (hl : Phrase .blocks blocks) :
      Phrase .blocks (.comment text :: blocks)

/-! ### Nesting and keys -/

theorem Phrase.wellNested {p : Part} (h : Phrase p run) : WellNested run := by
  induction h with
  | scalar s => exact .neutral rfl .nil
  | list _ ih => exact .group .sequence ih .nil
  | map _ ih => exact .group .mapping ih .nil
  | document _ ih => exact .group .json ih .nil
  | noItem | noEntry | noKey | noBlock => exact .nil
  | item _ _ ihv ihi => exact ihv.append ihi
  | entry _ _ _ ihv ihe => exact .neutral rfl (ihv.append ihe)
  | assignment _ _ _ ihv ihb => exact .neutral rfl (ihv.append ihb)
  | blockList _ _ _ ihl ihb => exact .neutral rfl (.group .sequence ihl ihb)
  | blockObject _ _ _ ihi ihb => exact .neutral rfl (.group (.block _) ihi ihb)
  | block _ _ ihi ihl => exact .group (.block _) ihi ihl
  | skipped _ ihl => exact .neutral rfl ihl

theorem Phrase.isValue (h : Phrase .value value) : IsValue value := by
  cases h with
  | scalar s => exact .scalar s
  | list h => exact .group .sequence h.wellNested
  | map h => exact .group .mapping h.wellNested
  | document h => exact .group .json h.wellNested

/-- What holds of keys with their values, and is kept by joining runs and by events in front that are
no keys, holds of every phrase. -/
theorem Phrase.of_closed {Q : List Event → Prop} (hnil : Q [])
    (happend : ∀ {run run'}, Q run → Q run' → Q (run ++ run'))
    (hplain : ∀ {e run}, e.isKey = false → Q run → Q (e :: run))
    (hkey : ∀ key {value}, IsValue value → Q value → Q (.key key :: value)) {p : Part}
    (h : Phrase p run) : Q run := by
  have hgroup (o : Opening) {run : List Event} (hrun : Q run) :
      Q (.start o :: (run ++ [.stop o.group])) :=
    hplain rfl (happend hrun (hplain rfl hnil))
  induction h with
  | scalar s => exact hplain rfl hnil
  | list _ ih => exact hgroup .sequence ih
  | map _ ih => exact hgroup .mapping ih
  | document _ ih => exact hgroup .json ih
  | noItem | noEntry | noKey | noBlock => exact hnil
  | item _ _ ihv ihi => exact happend ihv ihi
  | entry _ hv _ ihv ihe => exact happend (hkey _ hv.isValue ihv) ihe
  | assignment _ hv _ ihv ihb => exact happend (hkey _ hv.isValue ihv) ihb
  | @blockList key blocks body _ hl _ ihl ihb =>
      have hall := happend (hkey key (.group .sequence hl.wellNested) (hgroup .sequence ihl)) ihb
      simp only [List.cons_append, List.append_assoc, List.nil_append] at hall
      exact hall
  | @blockObject key name inner body _ hi _ ihi ihb =>
      have hall := happend
        (hkey key (.group (.block name) hi.wellNested) (hgroup (.block name) ihi)) ihb
      simp only [List.cons_append, List.append_assoc, List.nil_append] at hall
      exact hall
  | @block name inner blocks _ _ ihi ihl =>
      have hall := happend (hgroup (.block name) ihi) ihl
      simp only [List.cons_append, List.append_assoc, List.nil_append] at hall
      exact hall
  | skipped _ ihl => exact hplain rfl ihl

/-- Map entries and bodies are empty or begin with a key. -/
theorem Phrase.eq_nil_or_key {p : Part} (h : Phrase p run) (hp : p = .entries ∨ p = .body) :
    run = [] ∨ ∃ key tail, run = .key key :: tail := by
  cases h <;> simp at hp ⊢

/-- Behind an entry comes no value: another entry does, or what ends the run. -/
theorem Phrase.exists_head {p : Part} (h : Phrase p run) (hp : p = .entries ∨ p = .body)
    (hrest : ∃ e tail, rest = e :: tail ∧ ¬ ValueAhead [e]) :
    ∃ e tail, run ++ rest = e :: tail ∧ ¬ ValueAhead [e] := by
  rcases h.eq_nil_or_key hp with rfl | ⟨key, tail, rfl⟩
  · exact hrest
  · exact ⟨.key key, tail ++ rest, rfl, id⟩

theorem keysFed_key (key : MappingKey) (hv : IsValue value) (hfed : KeysFed (value ++ rest))
    (hrest : ∃ e tail, rest = e :: tail ∧ ¬ ValueAhead [e]) :
    KeysFed (.key key :: (value ++ rest)) := by
  obtain ⟨e, tail, rfl, he⟩ := hrest
  exact ⟨⟨value, e, tail, rfl, hv, he⟩, hfed⟩

/-- The keys of a phrase have their values, if no value follows where a key ends the phrase. -/
theorem Phrase.keysFed_append {p : Part} (h : Phrase p run) (hfed : KeysFed rest)
    (hrest : p = .entries ∨ p = .body → ∃ e tail, rest = e :: tail ∧ ¬ ValueAhead [e]) :
    KeysFed (run ++ rest) := by
  induction h generalizing rest with
  | scalar s => exact hfed
  | @list items _ ih =>
      have : KeysFed (items ++ .stop .sequence :: rest) := ih hfed (by simp)
      simpa [KeysFed] using this
  | @map entries _ ih =>
      have : KeysFed (entries ++ .stop .mapping :: rest) := ih hfed fun _ => ⟨_, _, rfl, id⟩
      simpa [KeysFed] using this
  | @document value _ ih =>
      have : KeysFed (value ++ .stop .json :: rest) := ih hfed (by simp)
      simpa [KeysFed] using this
  | noItem | noEntry | noKey | noBlock => exact hfed
  | item _ _ ihv ihi =>
      rw [List.append_assoc]
      exact ihv (ihi hfed (by simp)) (by simp)
  | entry _ hv he ihv ihe =>
      rw [List.cons_append, List.append_assoc]
      exact keysFed_key _ hv.isValue (ihv (ihe hfed hrest) (by simp))
        (he.exists_head (.inl rfl) (hrest (.inl rfl)))
  | assignment _ hv hb ihv ihb =>
      rw [List.cons_append, List.append_assoc]
      exact keysFed_key _ hv.isValue (ihv (ihb hfed hrest) (by simp))
        (hb.exists_head (.inr rfl) (hrest (.inr rfl)))
  | @blockList key blocks body _ hl hb ihl ihb =>
      have hv : IsValue (.start .sequence :: (blocks ++ [.stop .sequence])) :=
        .group .sequence hl.wellNested
      have hin : KeysFed (blocks ++ .stop .sequence :: (body ++ rest)) :=
        ihl (ihb hfed hrest) (by simp)
      have := keysFed_key key hv (by simpa [KeysFed] using hin)
        (hb.exists_head (.inr rfl) (hrest (.inr rfl)))
      simpa using this
  | @blockObject key name inner body _ hi hb ihi ihb =>
      have hv : IsValue (.start (.block name) :: (inner ++ [.stop .block])) :=
        .group (.block name) hi.wellNested
      have hin : KeysFed (inner ++ .stop .block :: (body ++ rest)) :=
        ihi (ihb hfed hrest) fun _ => ⟨_, _, rfl, id⟩
      have := keysFed_key key hv (by simpa [KeysFed] using hin)
        (hb.exists_head (.inr rfl) (hrest (.inr rfl)))
      simpa using this
  | @block name inner blocks _ _ ihi ihl =>
      have : KeysFed (inner ++ .stop .block :: (blocks ++ rest)) :=
        ihi (ihl hfed (by simp)) fun _ => ⟨_, _, rfl, id⟩
      simpa [KeysFed] using this
  | skipped _ ihl => exact ihl hfed (by simp)

/-- In a level that is closed all keys have their values. -/
theorem Phrase.keysFed_group {p : Part} (h : Phrase p run) (o : Opening) (g : Group) :
    KeysFed (.start o :: (run ++ [.stop g])) := by
  have : KeysFed (run ++ [.stop g]) := h.keysFed_append trivial fun _ => ⟨_, _, rfl, id⟩
  exact this

theorem Phrase.keysFed (h : Phrase .value value) : KeysFed value := by
  have : KeysFed (value ++ []) := h.keysFed_append trivial (by simp)
  simpa using this

/-! ### Lookahead in a stream whose keys have values -/

theorem contentAt_of_isValue (traits : ResourceTraits) (key : MappingKey) (hv : IsValue value)
    (rest : List Event) :
    contentAt traits key (value ++ rest) = .ok (contentOf traits key value) := by
  rw [contentAt, takeValue_of_isValue hv]

theorem populatedPaths_ok (traits : ResourceTraits) {events : List Event} (h : KeysFed events) :
    ∃ populated, populatedPaths traits events = .ok populated := by
  induction events with
  | nil => exact ⟨[], rfl⟩
  | cons e rest ih =>
      cases e with
      | key key =>
          obtain ⟨⟨value, e, tail, rfl, hv, -⟩, hfed⟩ := h
          obtain ⟨others, ho⟩ := ih hfed
          rw [populatedPaths, contentAt_of_isValue traits key hv, ho]
          exact ⟨_, rfl⟩
      | comment text => exact ih h
      | scalar s => exact ih h
      | start o => exact ih h
      | stop g => exact ih h

theorem hasOutput_ok (c : Context) {events : List Event} (h : KeysFed events) :
    ∃ answer, c.hasOutput events = .ok answer := by
  induction events with
  | nil => exact ⟨false, rfl⟩
  | cons e rest ih =>
      cases e with
      | key key =>
          obtain ⟨⟨value, e, tail, rfl, hv, -⟩, hfed⟩ := h
          obtain ⟨answer, ha⟩ := ih hfed
          rw [Context.hasOutput, ha, contentAt_of_isValue c.traits key hv]
          by_cases hb : key.shape.isBlock
          · exact ⟨answer, by simp [hb]⟩
          · by_cases hw : c.wouldWrite key (contentOf c.traits key value)
            · exact ⟨true, by simp [hb, hw, bind, Except.bind, pure, Except.pure]⟩
            · exact ⟨answer, by simp [hb, hw, bind, Except.bind]⟩
      | comment text => exact ih h
      | scalar s => exact ih h
      | start o => exact ih h
      | stop g => exact ih h

theorem shouldWrite_ok (c : Context) (key : MappingKey) (hv : IsValue value)
    (hfed : KeysFed value) (rest : List Event) :
    ∃ answer, c.shouldWrite key (value ++ rest) = .ok answer := by
  obtain ⟨answer, ha⟩ := hasOutput_ok c hfed
  have hblock : c.blockHasOutput (value ++ rest) = .ok answer := by
    rw [Context.blockHasOutput, takeValue_of_isValue hv]
    exact ha
  unfold Context.shouldWrite
  rw [contentAt_of_isValue c.traits key hv, hblock]
  simp only [bind, Except.bind, pure, Except.pure]
  split
  · exact ⟨_, rfl⟩
  · split
    · exact ⟨_, rfl⟩
    · split <;> exact ⟨_, rfl⟩

/-! ### Going through a phrase -/

/-- From a draft the writer goes through a run, whatever follows, back to the levels it started
from. -/
def Passes (c : Context) (d : Draft) (run : List Event) : Prop :=
  ∀ rest, ∃ d', ReflTransGen (Step c) (d, run ++ rest) (d', rest) ∧ Rests d' d.frames

theorem passes_nil (h : Rests d d.frames) : Passes c d [] :=
  fun _ => ⟨d, .refl, h⟩

theorem Passes.append (h : Passes c d run) (run' : List Event)
    (h' : ∀ d', Rests d' d.frames → Passes c d' run') : Passes c d (run ++ run') := by
  intro rest
  obtain ⟨d₁, hsteps, hrests⟩ := h (run' ++ rest)
  obtain ⟨d₂, hsteps', hrests'⟩ := h' d₁ hrests rest
  refine ⟨d₂, ?_, hrests.frames_eq ▸ hrests'⟩
  rw [List.append_assoc]
  exact hsteps.trans hsteps'

theorem passes_scalar (hp : d.pending = none) (hr : Ready d) (s : Scalar) :
    Passes c d [.scalar s] := by
  intro rest
  obtain ⟨d₁, hd⟩ := scalar_ok hr s
  obtain ⟨-, hframes, hp', hi⟩ := of_scalar_eq_ok hd
  exact ⟨d₁, .single (.scalar rest hd), hframes, hp'.trans hp, hi⟩

theorem passes_comment (h : Rests d d.frames) (text : String) : Passes c d [.comment text] :=
  fun rest => ⟨_, .single (.comment d text rest), h.frames_eq, h.pending_eq, h.inline_eq⟩

/-- A level that opens is passed if what stands in it is. -/
theorem passes_group {o : Opening} {f : Frame} {d₁ : Draft}
    (hs : d.swallows o = true → ∀ rest, dropStop o (run ++ .stop o.group :: rest) = none)
    (hd : d.start o false = .ok d₁) (hf : groupOf f = o.group)
    (hframes : d₁.frames = f :: d.frames) (hrun : Passes c d₁ run) :
    Passes c d (.start o :: (run ++ [.stop o.group])) := by
  intro rest
  obtain ⟨d₂, hsteps, hframes₂, hp₂, hi₂⟩ := hrun (.stop o.group :: rest)
  rw [hframes] at hframes₂
  obtain ⟨d₃, hd₃, hframes₃, hp₃, hi₃⟩ := stop_ok hframes₂
  rw [hf] at hd₃
  refine ⟨d₃, ?_, hframes₃, hp₃.trans hp₂, ?_⟩
  · simp only [List.cons_append, List.append_assoc, List.nil_append]
    exact .head (.start (fun h => hs h rest) hd) (.tail hsteps (.stop rest hd₃))
  · refine Bool.eq_false_iff.2 fun h => ?_
    rw [(hi₃ h).1] at hi₂
    cases hi₂

/-- An empty list or map is passed in one step. -/
theorem passes_swallow {o : Opening} {d₁ : Draft} (hs : d.swallows o = true)
    (hd : d.start o true = .ok d₁) (hp : d₁.pending = none) (hi : d₁.inline = false) :
    Passes c d [.start o, .stop o.group] := by
  intro rest
  have ht : dropStop o (.stop o.group :: rest) = some rest := dropStop_eq_some_iff.2 rfl
  exact ⟨d₁, .single (.swallow hs ht hd), frames_of_start_swallow_eq_ok hs hd, hp, hi⟩

/-- A key is passed, written or left out, if its value is passed behind it. -/
theorem passes_key {filtered : Bool} (hr : Rests d d.frames) (hf : d.filters? = some filtered)
    (hv : IsValue value) (hfed : KeysFed value)
    (hvalue : Passes c (d.writeKey key) value)
    (hscalar : ∀ s s', value = [.scalar s] → Passes c (d.writeKey key) [.scalar s']) :
    Passes c d (.key key :: value) := by
  intro rest
  cases filtered with
  | false =>
      obtain ⟨d', hsteps, hrests⟩ := hvalue rest
      rw [writeKey_frames] at hrests
      exact ⟨d', .head (.datum (value ++ rest) hf) hsteps, hrests⟩
  | true =>
      -- a default may have come in place of the value
      obtain ⟨value', hahead, hv', hfed', hvalue'⟩ : ∃ value',
          c.applyDefault key (value ++ rest) = value' ++ rest ∧ IsValue value' ∧
            KeysFed value' ∧ Passes c (d.writeKey key) value' := by
        rcases applyDefault_append c key hv rest with h | ⟨s, s', rfl, h⟩
        · exact ⟨value, h, hv, hfed, hvalue⟩
        · exact ⟨[.scalar s'], h, .scalar s', trivial, hscalar s s' rfl⟩
      obtain ⟨answer, ha⟩ := shouldWrite_ok c key hv' hfed' rest
      rw [← hahead] at ha
      cases answer with
      | true =>
          obtain ⟨d', hsteps, hrests⟩ := hvalue' rest
          rw [← hahead] at hsteps
          rw [writeKey_frames] at hrests
          exact ⟨d', .head (.write hf ha) hsteps, hrests⟩
      | false =>
          have ht : takeValue (c.applyDefault key (value ++ rest)) = some (value', rest) := by
            rw [hahead, takeValue_of_isValue hv']
          exact ⟨d, .single (.leaveOut hf ha ht), hr⟩

def Fits : Part → Draft → Prop
  | .value, d => d.pending = none ∧ Ready d
  | .items, d => Rests d d.frames ∧ d.frames.head? = some .sequence
  | .entries, d => Rests d d.frames ∧ d.filters?.isSome
  | .body, d => Rests d d.frames ∧ d.filters? = some true ∧ d.inJson = false
  | .blocks, d => Rests d d.frames ∧ d.frames.head? = some .blockList ∧ d.inJson = false

theorem inJson_congr {d' : Draft} (h : d'.frames = d.frames) : d'.inJson = d.inJson := by
  rw [Draft.inJson, Draft.inJson, h]

theorem Fits.of_rests {p : Part} {d' : Draft} (h : Fits p d) (hp : p ≠ .value)
    (hr : Rests d' d.frames) : Fits p d' := by
  have hframes := hr.frames_eq
  have hr' : Rests d' d'.frames := ⟨rfl, hr.pending_eq, hr.inline_eq⟩
  cases p with
  | value => exact absurd rfl hp
  | items => exact ⟨hr', hframes ▸ h.2⟩
  | entries => exact ⟨hr', filters?_congr hframes ▸ h.2⟩
  | body => exact ⟨hr', (filters?_congr hframes).trans h.2.1, (inJson_congr hframes).trans h.2.2⟩
  | blocks => exact ⟨hr', hframes ▸ h.2.1, (inJson_congr hframes).trans h.2.2⟩

theorem fits_value_writeKey (hr : Rests d d.frames) (hk : key.shape.isBlock = false) :
    Fits .value (d.writeKey key) := by
  rcases writeKey_cases d key with ⟨hb, -⟩ | ⟨-, hp, hi⟩
  · simp [hk] at hb
  · exact ⟨hp.trans hr.pending_eq, .inl hi⟩

theorem pending_writeKey_block (hr : Rests d d.frames) (hk : key.shape.isBlock = true)
    (hj : d.inJson = false) :
    (d.writeKey key).pending = some key.shape ∧ (d.writeKey key).inline = false := by
  rcases writeKey_cases d key with ⟨-, -, hp, hi⟩ | ⟨hn, -⟩
  · exact ⟨hp, hi.trans hr.inline_eq⟩
  · exact absurd ⟨hk, hj⟩ hn

theorem dropStop_eq_none {o : Opening} (h : WellNested run) (hne : run ≠ [])
    (rest : List Event) : dropStop o (run ++ rest) = none := by
  cases h with
  | nil => exact absurd rfl hne
  | @neutral e run' he _ =>
      cases e with
      | stop g => simp [Event.nesting] at he
      | _ => rfl
  | group => rfl

/-- A key whose value is no block is passed if its value is. -/
theorem passes_data_key {filtered : Bool} (hr : Rests d d.frames)
    (hf : d.filters? = some filtered) (hk : key.shape.isBlock = false)
    (hv : Phrase .value value) (ih : ∀ d, Fits .value d → Passes c d value) :
    Passes c d (.key key :: value) := by
  obtain ⟨hp, hready⟩ := fits_value_writeKey hr hk
  exact passes_key hr hf hv.isValue hv.keysFed (ih _ ⟨hp, hready⟩)
    fun _ s' _ => passes_scalar hp hready s'

theorem passes_block
    (hplace : d.frames.head? = some .blockList ∨ d.pending = some .blockObject)
    (hi : d.inline = false) (hj : d.inJson = false) (name : String)
    (ih : ∀ d, Fits .body d → Passes c d run) :
    Passes c d (.start (.block name) :: (run ++ [.stop .block])) := by
  obtain ⟨d₁, hd₁⟩ := start_block_ok hplace name false
  obtain ⟨-, hframes, hp₁, hi₁⟩ := of_start_block_eq_ok hd₁
  have hfits : Fits .body d₁ := by
    refine ⟨⟨rfl, hp₁, hi₁.trans hi⟩, by simp [Draft.filters?, hframes], ?_⟩
    simpa [Draft.inJson, hframes] using hj
  exact passes_group (o := .block name) (f := .block) (by simp [Draft.swallows]) hd₁ rfl hframes
    (ih d₁ hfits)

/-- The writer goes through every phrase where it fits. -/
theorem Phrase.passes {p : Part} (h : Phrase p run) (hd : Fits p d) : Passes c d run := by
  induction h generalizing d with
  | scalar s => exact passes_scalar hd.1 hd.2 s
  | @list items hitems ih =>
      obtain ⟨hp, hr⟩ := hd
      have hne : d.pending ≠ some .blockList := by simp [hp]
      by_cases hnil : items = []
      · subst hnil
        obtain ⟨d₁, hd₁⟩ := start_sequence_ok hne hr true
        obtain ⟨hp₁, ⟨hp', -⟩ | ⟨-, -, hi₁, -⟩⟩ := of_start_sequence_eq_ok hd₁
        · exact absurd hp' hne
        · exact passes_swallow (by simpa [Draft.swallows] using hne) hd₁ hp₁ hi₁
      · obtain ⟨d₁, hd₁⟩ := start_sequence_ok hne hr false
        obtain ⟨hp₁, ⟨hp', -⟩ | ⟨-, -, hi₁, hframes⟩⟩ := of_start_sequence_eq_ok hd₁
        · exact absurd hp' hne
        · refine passes_group (f := .sequence)
            (fun _ _ => dropStop_eq_none hitems.wellNested hnil _) hd₁ rfl hframes (ih ?_)
          exact ⟨⟨rfl, hp₁, hi₁⟩, by rw [hframes]; rfl⟩
  | @map entries hentries ih =>
      obtain ⟨hp, hr⟩ := hd
      by_cases hnil : entries = []
      · subst hnil
        obtain ⟨d₁, hd₁⟩ := start_mapping_ok hr true
        obtain ⟨-, hp₁, hi₁, -⟩ := of_start_mapping_eq_ok hd₁
        exact passes_swallow rfl hd₁ (hp₁.trans hp) hi₁
      · obtain ⟨d₁, hd₁⟩ := start_mapping_ok hr false
        obtain ⟨-, hp₁, hi₁, filtered, hframes⟩ := of_start_mapping_eq_ok hd₁
        refine passes_group (f := .mapping filtered)
          (fun _ _ => dropStop_eq_none hentries.wellNested hnil _) hd₁ rfl hframes (ih ?_)
        exact ⟨⟨rfl, hp₁.trans hp, hi₁⟩, by simp [Draft.filters?, hframes]⟩
  | @document value hvalue ih =>
      obtain ⟨hp, hr⟩ := hd
      obtain ⟨d₁, hd₁⟩ := start_json_ok hr false
      obtain ⟨-, hframes, hp₁, hi₁⟩ := of_start_json_eq_ok hd₁
      refine passes_group (f := .json) (fun h => ?_) hd₁ rfl hframes (ih ⟨hp₁.trans hp, .inl hi₁⟩)
      simp [Draft.swallows] at h
  | noItem | noEntry | noKey | noBlock => exact passes_nil hd.1
  | item hv hi ihv ihi =>
      refine (ihv ⟨hd.1.pending_eq, .inr (.inl hd.2)⟩).append _ fun d' hr => ?_
      exact ihi (hd.of_rests (by simp) hr)
  | @entry key value entries hk hv he ihv ihe =>
      obtain ⟨filtered, hf⟩ := Option.isSome_iff_exists.1 hd.2
      refine (passes_data_key hd.1 hf hk hv fun d => ihv).append entries fun d' hr => ?_
      exact ihe (hd.of_rests (by simp) hr)
  | @assignment key value body hk hv hb ihv ihb =>
      refine (passes_data_key hd.1 hd.2.1 hk hv fun d => ihv).append body fun d' hr => ?_
      exact ihb (hd.of_rests (by simp) hr)
  | @blockList key blocks body hk hl hb ihl ihb =>
      obtain ⟨hr, hf, hj⟩ := hd
      have hv : IsValue (.start .sequence :: (blocks ++ [.stop .sequence])) :=
        .group .sequence hl.wellNested
      obtain ⟨hp, hi⟩ := pending_writeKey_block hr (by rw [hk]; rfl) hj
      rw [hk] at hp
      obtain ⟨d₁, hd₁⟩ := start_blockList_ok hp false
      obtain ⟨hp₁, ⟨-, hframes, hi₁⟩ | ⟨hp', -⟩⟩ := of_start_sequence_eq_ok hd₁
      case inr => exact absurd hp hp'
      have hfits : Fits .blocks d₁ := by
        refine ⟨⟨rfl, hp₁, hi₁.trans hi⟩, by rw [hframes]; rfl, ?_⟩
        simpa [Draft.inJson, hframes] using hj
      have hgroup := passes_group (o := .sequence) (f := .blockList)
        (by simp [Draft.swallows, hp]) hd₁ rfl hframes (ihl hfits)
      have hpass := (passes_key hr hf hv (hl.keysFed_group _ _) hgroup
        (by simp)).append body fun d' hr' => ihb (Fits.of_rests ⟨hr, hf, hj⟩ (by simp) hr')
      simpa using hpass
  | @blockObject key name inner body hk hi hb ihi ihb =>
      obtain ⟨hr, hf, hj⟩ := hd
      have hv : IsValue (.start (.block name) :: (inner ++ [.stop .block])) :=
        .group (.block name) hi.wellNested
      obtain ⟨hp, hinline⟩ := pending_writeKey_block hr (by rw [hk]; rfl) hj
      rw [hk] at hp
      have hblock := passes_block (.inr hp) hinline
        ((inJson_congr (writeKey_frames d key)).trans hj) name fun d => ihi
      have hpass := (passes_key hr hf hv (hi.keysFed_group _ _) hblock
        (by simp)).append body fun d' hr' => ihb (Fits.of_rests ⟨hr, hf, hj⟩ (by simp) hr')
      simpa using hpass
  | @block name inner blocks hi hl ihi ihl =>
      have hblock := passes_block (.inl hd.2.1) hd.1.inline_eq hd.2.2 name fun d => ihi
      have hpass := hblock.append blocks fun d' hr => ihl (hd.of_rests (by simp) hr)
      simpa using hpass
  | @skipped text blocks hl ihl =>
      exact (passes_comment hd.1 text).append blocks fun d' hr =>
        ihl (hd.of_rests (by simp) hr)

/-- Every resource with a body of the grammar is written, whatever the rules of its type. -/
theorem write_ok_of_body {body : List Event} (h : Phrase .body body) (traits : ResourceTraits)
    (type name : String) :
    ∃ text, write traits (.start (.resource type name) :: (body ++ [.stop .resource])) =
      .ok text := by
  have hn : WellNested (.start (.resource type name) :: (body ++ [.stop .resource])) :=
    .group (.resource type name) h.wellNested .nil
  have hfed := h.keysFed_group (.resource type name) .resource
  obtain ⟨d₁, hd₁⟩ : ∃ d₁, Draft.empty.start (.resource type name) false = .ok d₁ := ⟨_, rfl⟩
  obtain ⟨-, hframes, hp, hi⟩ := of_start_resource_eq_ok hd₁
  have hfits : Fits .body d₁ := by
    refine ⟨⟨rfl, hp, hi⟩, by simp [Draft.filters?, hframes], ?_⟩
    simp [Draft.inJson, hframes]
  have hpass (c : Context) : Passes c .empty
      (.start (.resource type name) :: (body ++ [.stop .resource])) :=
    passes_group (o := .resource type name) (f := .resource) (by simp [Draft.swallows]) hd₁ rfl
      hframes (h.passes hfits)
  obtain ⟨d, hsteps, -⟩ := hpass _ []
  rw [List.append_nil] at hsteps
  exact ⟨d.text, write_eq_ok_iff.2 ⟨hn.balanced, populatedPaths_ok traits hfed, d, hsteps, rfl⟩⟩

end StackExport.Proofs.WritableStream
