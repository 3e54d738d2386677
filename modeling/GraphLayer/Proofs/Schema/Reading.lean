import GraphLayer.Proofs.Schema.Tokens
import GraphLayer.Schema.Reader

/-!
# Reading a schema back

* `TypeRef.Normal` to `Definition.Normal`: the marks that exclude null and the lists of types, and
  the definitions, are as a reader can give them back;
* `Quiet`, tokens that do not go on with the part before them, so that a reader stops in front of
  them;
* `type?_tokens` to `definition?_tokens`: the readers of the parts of a schema take their tokens
  off;
* `Document.Named.read?_text`: a schema is read back from its text.
-/

namespace GraphLayer.Schema

/-! ### Schemas that can be read back -/

/-- The type has no mark that excludes null. -/
def TypeRef.isBare : TypeRef → Bool
  | nonNull _ => false
  | _ => true

/-- Every mark that excludes null stands at a type without one. -/
def TypeRef.MarkedOnce : TypeRef → Prop
  | named _ => True
  | list item => item.MarkedOnce
  | nonNull inner => inner.isBare = true ∧ inner.MarkedOnce

/-- The number of lists around the leaf of a type. -/
def TypeRef.depth : TypeRef → Nat
  | named _ => 0
  | list item => item.depth + 1
  | nonNull inner => inner.depth

/-- A type that can stand in the arguments of a field: the brackets around these count, too. -/
structure TypeRef.Normal (t : TypeRef) : Prop where
  marks : t.MarkedOnce
  depth : t.depth + 2 ≤ nestingLimit

/-- The types of a field and of its arguments are as a reader can give them back. -/
structure FieldDef.Normal (f : FieldDef) : Prop where
  arguments : ∀ a ∈ f.arguments, a.type.Normal
  type : f.type.Normal

/-- A definition as a reader can give it back: an extension has fields, and definitions without a
text are left out. -/
def Definition.Normal : Definition → Prop
  | scalar _ => True
  | object _ fields => ∀ f ∈ fields, f.Normal
  | extension _ fields => fields ≠ [] ∧ ∀ f ∈ fields, f.Normal
  | other => False

/-! ### What readers stop at -/

/-- Tokens that no type, argument or field goes on with: there are none, or the first one is a name
or closes a list. -/
def Quiet (ts : List Token) : Prop := ∀ t, ts.head? = some t →
  t = .mark ')' ∨ t = .mark ']' ∨ t = .mark '\x7d' ∨ ∃ s, t = .name s

theorem after?_eq_none_of_ne {t u : Token} (h : u ≠ t) (ts : List Token) :
    after? t (u :: ts) = none := by
  simp [after?, h]

@[simp] theorem after?_self (t : Token) (ts : List Token) : after? t (t :: ts) = some ts := by
  simp [after?]

theorem directives?_of_after? {n : Nat} {ts : List Token} (h : after? (.mark '@') ts = none)
    (hn : 0 < n) : directives? n ts = some (0, ts) := by
  obtain ⟨n, rfl⟩ := Nat.exists_eq_succ_of_ne_zero (Nat.ne_of_gt hn)
  simp only [directives?, h]

namespace Quiet

variable {rest : List Token}

theorem name (s : String) (ts : List Token) : Quiet (.name s :: ts) := by
  intro t ht
  exact .inr (.inr (.inr ⟨s, (Option.some.inj ht).symm⟩))

theorem mark {c : Char} (hc : c = ')' ∨ c = ']' ∨ c = '\x7d') (ts : List Token) :
    Quiet (.mark c :: ts) := by
  intro t ht
  obtain rfl := Option.some.inj ht
  rcases hc with rfl | rfl | rfl
  · exact .inl rfl
  · exact .inr (.inl rfl)
  · exact .inr (.inr (.inl rfl))

theorem after?_mark (h : Quiet rest) {c : Char} (hc : c ≠ ')' ∧ c ≠ ']' ∧ c ≠ '\x7d') :
    after? (.mark c) rest = none := by
  cases rest with
  | nil => rfl
  | cons t ts =>
    refine after?_eq_none_of_ne ?_ ts
    rintro rfl
    rcases h _ rfl with h | h | h | ⟨s, h⟩
    · exact hc.1 (Token.mark.inj h)
    · exact hc.2.1 (Token.mark.inj h)
    · exact hc.2.2 (Token.mark.inj h)
    · cases h

theorem directives? (h : Quiet rest) {n : Nat} (hn : 0 < n) :
    Schema.directives? n rest = some (0, rest) :=
  directives?_of_after? (h.after?_mark (by decide)) hn

theorem default? (h : Quiet rest) (n : Nat) : Schema.default? n rest = some rest := by
  simp only [Schema.default?, h.after?_mark (c := '=') (by decide)]

end Quiet

/-! ### Types -/

theorem marked_eq_self {t : TypeRef} {rest : List Token} (h : after? (.mark '!') rest = none) :
    marked t rest = (t, rest) := by
  simp [marked, h]

/-- The reader of types takes the tokens of a type off, with the mark that may follow it. -/
theorem TypeRef.MarkedOnce.type?_tokens {t : TypeRef} (h : t.MarkedOnce) {n : Nat}
    (hn : t.tokens.length < n) (rest : List Token) :
    type? n (t.tokens ++ rest) = some (if t.isBare then marked t rest else (t, rest)) := by
  induction t generalizing n rest with
  | named name =>
    obtain ⟨n, rfl⟩ := Nat.exists_eq_succ_of_ne_zero (Nat.ne_of_gt (Nat.zero_lt_of_lt hn))
    rfl
  | list item ih =>
    obtain ⟨n, rfl⟩ := Nat.exists_eq_succ_of_ne_zero (Nat.ne_of_gt (Nat.zero_lt_of_lt hn))
    have hlen : item.tokens.length < n := by
      simp only [TypeRef.tokens, List.length_append, List.length_cons, List.length_nil] at hn
      omega
    -- the mark behind the item is a bracket, so that the item stays as it is
    have hclose : marked item (.mark ']' :: rest) = (item, .mark ']' :: rest) :=
      marked_eq_self (after?_eq_none_of_ne (by decide) _)
    have hitem := ih h hlen (.mark ']' :: rest)
    rw [hclose, ite_self] at hitem
    have htokens : (TypeRef.list item).tokens ++ rest =
        .mark '[' :: (item.tokens ++ .mark ']' :: rest) := by
      simp [TypeRef.tokens]
    rw [htokens]
    simp [type?, hitem, isBare]
  | nonNull inner ih =>
    have hlen : inner.tokens.length < n := by
      simp only [TypeRef.tokens, List.length_append] at hn
      omega
    have hinner := ih h.2 hlen (.mark '!' :: rest)
    have htokens : (TypeRef.nonNull inner).tokens ++ rest =
        inner.tokens ++ .mark '!' :: rest := by
      simp [TypeRef.tokens]
    rw [htokens, hinner, h.1]
    simp [marked, isBare]

theorem TypeRef.MarkedOnce.type?_of_quiet {t : TypeRef} (h : t.MarkedOnce) {n : Nat}
    (hn : t.tokens.length < n) {rest : List Token} (hr : Quiet rest) :
    type? n (t.tokens ++ rest) = some (t, rest) := by
  rw [h.type?_tokens hn, marked_eq_self (hr.after?_mark (by decide)), ite_self]

/-! ### Lists -/

section Lists

variable {A : Type} {part? : List Token → Option (A × List Token)} {tokens : A → List Token}
  {close : Char} {xs : List A} {n : Nat}

/-- Parts, each of which begins with a name, are read up to the token that closes their list. -/
theorem until?_flatMap (hclose : close = ')' ∨ close = ']' ∨ close = '\x7d')
    (hname : ∀ x ∈ xs, ∃ s ts, tokens x = .name s :: ts)
    (hpart : ∀ x ∈ xs, ∀ rest, Quiet rest → part? (tokens x ++ rest) = some (x, rest))
    (hn : xs.length < n) (rest : List Token) :
    until? part? (.mark close) n (xs.flatMap tokens ++ .mark close :: rest) = some (xs, rest) := by
  induction xs generalizing n with
  | nil =>
    obtain ⟨n, rfl⟩ := Nat.exists_eq_succ_of_ne_zero (Nat.ne_of_gt hn)
    simp [until?]
  | cons x xs ih =>
    obtain ⟨n, rfl⟩ := Nat.exists_eq_succ_of_ne_zero (Nat.ne_of_gt (Nat.zero_lt_of_lt hn))
    have hname' : ∀ y ∈ xs, ∃ s ts, tokens y = .name s :: ts :=
      fun y hy => hname y (List.mem_cons_of_mem _ hy)
    have hrest := ih hname' (fun y hy => hpart y (List.mem_cons_of_mem _ hy))
      (Nat.lt_of_succ_lt_succ hn)
    have hquiet : Quiet (xs.flatMap tokens ++ .mark close :: rest) := by
      cases xs with
      | nil => exact .mark hclose rest
      | cons y ys =>
        obtain ⟨s, ts, hy⟩ := hname' y List.mem_cons_self
        rw [List.flatMap_cons, hy]
        exact .name s _
    have hx := hpart x List.mem_cons_self _ hquiet
    obtain ⟨s, ts, htokens⟩ := hname x List.mem_cons_self
    have hopen : after? (.mark close) (tokens x ++ (xs.flatMap tokens ++ .mark close :: rest)) =
        none := by
      rw [htokens]
      exact after?_eq_none_of_ne (by simp) _
    rw [List.flatMap_cons, List.append_assoc]
    simp only [until?, hopen, hx, hrest, Option.bind_eq_bind, Option.bind_some]
    rfl

theorem length_le_flatMap {x : A} (h : x ∈ xs) :
    (tokens x).length ≤ (xs.flatMap tokens).length := by
  obtain ⟨before, after, rfl⟩ := List.append_of_mem h
  simp only [List.flatMap_append, List.flatMap_cons, List.length_append]
  omega

theorem length_le_length_flatMap (h : ∀ x ∈ xs, ∃ s ts, tokens x = .name s :: ts) :
    xs.length ≤ (xs.flatMap tokens).length := by
  induction xs with
  | nil => exact Nat.le_refl 0
  | cons x xs ih =>
    have ih := ih fun y hy => h y (List.mem_cons_of_mem _ hy)
    obtain ⟨s, ts, hx⟩ := h x List.mem_cons_self
    simp only [List.flatMap_cons, List.length_append, hx, List.length_cons]
    omega

/-- Parts between two marks are read, or left out if there is none. -/
theorem enclosed?_tokens {first : Char} (hclose : close = ')' ∨ close = ']' ∨ close = '\x7d')
    (hname : ∀ x ∈ xs, ∃ s ts, tokens x = .name s :: ts)
    (hpart : ∀ x ∈ xs, (tokens x).length < n →
      ∀ rest, Quiet rest → part? (tokens x ++ rest) = some (x, rest))
    (hn : (enclosedTokens first close tokens xs).length < n) {rest : List Token}
    (hr : after? (.mark first) rest = none) :
    enclosed? part? (.mark first) (.mark close) n (enclosedTokens first close tokens xs ++ rest) =
      some (xs, rest) := by
  unfold enclosedTokens at hn ⊢
  by_cases hxs : xs = []
  · subst hxs
    simp [enclosed?, hr]
  · have hempty : xs.isEmpty = false := by simpa using hxs
    rw [hempty] at hn ⊢
    simp only [Bool.false_eq_true, if_false, List.length_append, List.length_cons] at hn
    have hlen := length_le_length_flatMap hname
    have hparts : ∀ x ∈ xs, ∀ rest, Quiet rest → part? (tokens x ++ rest) = some (x, rest) := by
      intro x hx
      have hx' : (tokens x).length ≤ (xs.flatMap tokens).length := length_le_flatMap hx
      exact hpart x hx (by omega)
    have huntil := until?_flatMap hclose hname hparts (by omega : xs.length < n) rest
    simp [enclosed?, someUntil?, huntil, hxs]

end Lists

/-! ### Arguments and fields -/

variable {n : Nat} {rest : List Token}

theorem argument?_tokens {a : Argument} (h : a.type.Normal) (hn : a.tokens.length < n)
    (hr : Quiet rest) : argument? n (a.tokens ++ rest) = some (a, rest) := by
  have hlen : a.type.tokens.length < n := by
    simp only [Argument.tokens, List.length_cons] at hn
    omega
  have htype := h.marks.type?_of_quiet hlen hr
  have hdirectives := hr.directives? (Nat.zero_lt_of_lt hn)
  simp [argument?, Argument.tokens, skipString, skip, after?, name?, htype, hr.default?,
    hdirectives]

theorem arguments?_tokens {as : List Argument} (h : ∀ a ∈ as, a.type.Normal)
    (hn : (argumentsTokens as).length < n) (hr : after? (.mark '(') rest = none) :
    arguments? n (argumentsTokens as ++ rest) = some (as, rest) :=
  enclosed?_tokens (.inl rfl) (fun _ _ => ⟨_, _, rfl⟩)
    (fun a ha hlen _ hrest => argument?_tokens (h a ha) hlen hrest) hn hr

theorem field?_tokens {f : FieldDef} (h : f.Normal) (hn : f.tokens.length < n) (hr : Quiet rest) :
    field? n (f.tokens ++ rest) = some (f, rest) := by
  simp only [FieldDef.tokens, List.length_cons, List.length_append] at hn
  have htokens : f.tokens ++ rest = .name f.name ::
      (argumentsTokens f.arguments ++ .mark ':' :: (f.type.tokens ++ rest)) := by
    simp [FieldDef.tokens]
  -- without arguments it is the colon that shows that there are none
  have harguments := arguments?_tokens h.arguments (by omega : _ < n)
    (after?_eq_none_of_ne (by decide) (f.type.tokens ++ rest) : after? _ (.mark ':' :: _) = none)
  have htype := h.type.marks.type?_of_quiet (by omega : _ < n) hr
  have hdirectives := hr.directives? (Nat.zero_lt_of_lt hn)
  rw [htokens]
  simp [field?, skipString, skip, after?_eq_none_of_ne, name?, harguments, htype, hdirectives]

theorem fields?_tokens {fs : List FieldDef} (h : ∀ f ∈ fs, f.Normal)
    (hn : (fieldsTokens fs).length < n) (hr : after? (.mark '\x7b') rest = none) :
    fields? n (fieldsTokens fs ++ rest) = some (fs, rest) :=
  enclosed?_tokens (.inr (.inr rfl)) (fun _ _ => ⟨_, _, rfl⟩)
    (fun f hf hlen _ hrest => field?_tokens (h f hf) hlen hrest) hn hr

/-! ### Definitions -/

/-- Tokens that no definition goes on with: there are none, or the first one is a keyword. -/
def Begins (ts : List Token) : Prop :=
  ∀ t, ts.head? = some t → ∃ s, t = .name s ∧ s ≠ "implements"

theorem Begins.quiet (h : Begins rest) : Quiet rest := by
  intro t ht
  obtain ⟨s, rfl, -⟩ := h t ht
  exact .inr (.inr (.inr ⟨s, rfl⟩))

theorem Begins.cons {s : String} (hs : s ≠ "implements") (ts : List Token) :
    Begins (.name s :: ts) := by
  intro t ht
  exact ⟨s, (Option.some.inj ht).symm, hs⟩

theorem Begins.after?_implements (h : Begins rest) : after? (.name "implements") rest = none := by
  cases rest with
  | nil => rfl
  | cons t ts =>
    obtain ⟨s, rfl, hs⟩ := h t rfl
    exact after?_eq_none_of_ne (fun he => hs (Token.name.inj he)) ts

theorem after?_fieldsTokens {t : Token} (ht : t ≠ .mark '\x7b') {fs : List FieldDef}
    (hr : after? t rest = none) : after? t (fieldsTokens fs ++ rest) = none := by
  unfold fieldsTokens enclosedTokens
  split
  · exact hr
  · exact after?_eq_none_of_ne (Ne.symm ht) _

/-- An object is read after its keyword. -/
theorem body?_object (name : String) {fields : List FieldDef} (h : ∀ f ∈ fields, f.Normal)
    (hn : (fieldsTokens fields).length < n) (hr : Begins rest) :
    body? n "type" (.name name :: fieldsTokens fields ++ rest) =
      some ((.object name fields, !fields.isEmpty), rest) := by
  have hinterfaces : after? (.name "implements") (fieldsTokens fields ++ rest) = none :=
    after?_fieldsTokens (by decide) hr.after?_implements
  have hdirectives := directives?_of_after? (n := n)
    (after?_fieldsTokens (by decide) (hr.quiet.after?_mark (by decide)) :
      after? _ (fieldsTokens fields ++ rest) = none) (Nat.zero_lt_of_lt hn)
  have hfields := fields?_tokens h hn (hr.quiet.after?_mark (by decide))
  simp [body?, name?, interfaces?, hinterfaces, hdirectives, hfields]

theorem definition?_tokens {x : Definition} (h : x.Normal) (hn : x.tokens.length < n)
    (hr : Begins rest) : definition? n (x.tokens ++ rest) = some (x, rest) := by
  cases x with
  | scalar name =>
    have hdirectives := hr.quiet.directives? (Nat.zero_lt_of_lt hn)
    simp [Definition.tokens, definition?, skipString, skip, after?, name?, body?, hdirectives]
  | object name fields =>
    simp only [Definition.tokens, List.length_cons] at hn
    have hbody := body?_object name h (by omega : _ < n) hr
    simp only [List.cons_append] at hbody
    simp [Definition.tokens, definition?, skipString, skip, after?, name?, hbody]
  | extension name fields =>
    simp only [Definition.tokens, List.length_cons] at hn
    have hbody := body?_object name h.2 (by omega : _ < n) hr
    simp only [List.cons_append] at hbody
    have hfull : (!fields.isEmpty) = true := by simpa using h.1
    simp [Definition.tokens, definition?, name?, hbody, hfull, Definition.extended]
  | other => exact h.elim

/-- A definition begins with its keyword. -/
theorem Definition.Normal.exists_tokens {x : Definition} (h : x.Normal) :
    ∃ s ts, x.tokens = .name s :: ts ∧ s ≠ "implements" := by
  cases x with
  | scalar name => exact ⟨"scalar", _, rfl, by decide⟩
  | object name fields => exact ⟨"type", _, rfl, by decide⟩
  | extension name fields => exact ⟨"extend", _, rfl, by decide⟩
  | other => exact h.elim

theorem begins_tokens {d : Document} (h : ∀ x ∈ d, Definition.Normal x) :
    Begins (Document.tokens d) := by
  cases d with
  | nil => nofun
  | cons x xs =>
    obtain ⟨s, ts, htokens, hs⟩ := (h x List.mem_cons_self).exists_tokens
    rw [Document.tokens, List.flatMap_cons, htokens]
    exact .cons hs _

/-- The definitions of a schema are read one after the other. -/
theorem definitions?_tokens {d : Document} (h : ∀ x ∈ d, Definition.Normal x)
    (hn : (Document.tokens d).length < n) {k : Nat} (hk : d.length < k) :
    definitions? n k (Document.tokens d) = some d := by
  induction d generalizing k with
  | nil =>
    obtain ⟨k, rfl⟩ := Nat.exists_eq_succ_of_ne_zero (Nat.ne_of_gt hk)
    rfl
  | cons x xs ih =>
    obtain ⟨k, rfl⟩ := Nat.exists_eq_succ_of_ne_zero (Nat.ne_of_gt (Nat.zero_lt_of_lt hk))
    have htokens : Document.tokens (x :: xs) = x.tokens ++ Document.tokens xs := rfl
    rw [htokens, List.length_append] at hn
    have hxs : ∀ y ∈ xs, Definition.Normal y := fun y hy => h y (List.mem_cons_of_mem _ hy)
    have hx := definition?_tokens (h x List.mem_cons_self) (by omega : _ < n) (begins_tokens hxs)
    have hrest := ih hxs (by omega) (Nat.lt_of_succ_lt_succ hk)
    obtain ⟨s, ts, hts, -⟩ := (h x List.mem_cons_self).exists_tokens
    rw [htokens]
    rw [hts, List.cons_append] at hx ⊢
    simp [definitions?, hx, hrest]

/-! ### Nesting -/

/-- The brackets of some tokens are balanced, and never more than `k` of them are open. -/
def Nested (k : Nat) (ts : List Token) : Prop :=
  ∀ room rest, k ≤ room → withinNesting room (ts ++ rest) = withinNesting room rest

namespace Nested

variable {k l : Nat} {s t : List Token}

theorem nil (k : Nat) : Nested k [] := fun _ _ _ => rfl

theorem mono (h : Nested k t) (hkl : k ≤ l) : Nested l t :=
  fun room rest hroom => h room rest (Nat.le_trans hkl hroom)

theorem append (hs : Nested k s) (ht : Nested k t) : Nested k (s ++ t) := by
  intro room rest hroom
  rw [List.append_assoc, hs room _ hroom, ht room rest hroom]

theorem name (k : Nat) (n : String) : Nested k [.name n] := fun _ _ _ => rfl

/-- The marks `:` and `!` open and close nothing. -/
theorem mark (k : Nat) {c : Char} (hc : c = ':' ∨ c = '!') : Nested k [.mark c] := by
  intro room rest _
  rcases hc with rfl | rfl <;> rfl

theorem flatMap {A : Type} {f : A → List Token} {xs : List A} (h : ∀ x ∈ xs, Nested k (f x)) :
    Nested k (xs.flatMap f) := by
  induction xs with
  | nil => exact .nil k
  | cons x xs ih =>
    rw [List.flatMap_cons]
    exact .append (h x List.mem_cons_self) (ih fun y hy => h y (List.mem_cons_of_mem _ hy))

/-- Brackets around some tokens are one level more. -/
theorem bracket {first last : Char} (h : Nested k t)
    (hb : (first, last) ∈ [('(', ')'), ('[', ']'), ('\x7b', '\x7d')]) :
    Nested (k + 1) (.mark first :: t ++ [.mark last]) := by
  intro room rest hroom
  obtain ⟨room, rfl⟩ := Nat.exists_eq_succ_of_ne_zero (Nat.ne_of_gt (Nat.zero_lt_of_lt hroom))
  have hopen : ∀ ts, withinNesting (room + 1) (.mark first :: ts) = withinNesting room ts := by
    intro ts
    simp only [List.mem_cons, Prod.mk.injEq, List.not_mem_nil, or_false] at hb
    rcases hb with ⟨rfl, -⟩ | ⟨rfl, -⟩ | ⟨rfl, -⟩ <;> simp [withinNesting]
  have hclose : ∀ ts, withinNesting room (.mark last :: ts) = withinNesting (room + 1) ts := by
    intro ts
    simp only [List.mem_cons, Prod.mk.injEq, List.not_mem_nil, or_false] at hb
    rcases hb with ⟨-, rfl⟩ | ⟨-, rfl⟩ | ⟨-, rfl⟩ <;> simp [withinNesting]
  rw [List.cons_append, List.cons_append, List.append_assoc, hopen,
    h room _ (Nat.le_of_succ_le_succ hroom), List.singleton_append, hclose]

theorem enclosedTokens {A : Type} {first last : Char} {f : A → List Token} {xs : List A}
    (h : ∀ x ∈ xs, Nested k (f x))
    (hb : (first, last) ∈ [('(', ')'), ('[', ']'), ('\x7b', '\x7d')]) :
    Nested (k + 1) (enclosedTokens first last f xs) := by
  unfold Schema.enclosedTokens
  split
  · exact .nil _
  · exact (Nested.flatMap h).bracket hb

theorem type (t : TypeRef) : Nested t.depth t.tokens := by
  induction t with
  | named name => exact .name 0 name
  | list item ih => exact ih.bracket (by decide)
  | nonNull inner ih => exact ih.append (.mark _ (.inr rfl))

/-- A type stands in a field, behind a colon. -/
theorem colon {t : TypeRef} (h : t.Normal) :
    Nested (nestingLimit - 2) (.mark ':' :: t.tokens) := by
  have hdepth := h.depth
  have htype := (Nested.type t).mono (by omega : t.depth ≤ nestingLimit - 2)
  exact (Nested.mark _ (.inl rfl)).append htype

theorem field {f : FieldDef} (h : f.Normal) : Nested (nestingLimit - 1) f.tokens := by
  have hargument : ∀ a ∈ f.arguments, Nested (nestingLimit - 2) a.tokens :=
    fun a ha => (Nested.name _ a.name).append (colon (h.arguments a ha))
  have harguments : Nested (nestingLimit - 1) (argumentsTokens f.arguments) :=
    enclosedTokens hargument (by decide)
  have htype := (colon h.type).mono (by decide : nestingLimit - 2 ≤ nestingLimit - 1)
  exact (Nested.name _ f.name).append (harguments.append htype)

theorem definition {x : Definition} (h : x.Normal) : Nested nestingLimit x.tokens := by
  have hfields {fs : List FieldDef} (hfs : ∀ f ∈ fs, f.Normal) :
      Nested nestingLimit (fieldsTokens fs) :=
    enclosedTokens (fun f hf => field (hfs f hf)) (by decide)
  cases x with
  | scalar name => exact (Nested.name _ "scalar").append (.name _ name)
  | object name fields =>
    exact (Nested.name _ "type").append ((Nested.name _ name).append (hfields h))
  | extension name fields =>
    exact (Nested.name _ "extend").append
      ((Nested.name _ "type").append ((Nested.name _ name).append (hfields h.2)))
  | other => exact h.elim

end Nested

/-! ### Schemas -/

/-- **A schema is read back from its text.**  Let its names be names of the schema language, its
types and definitions be as a reader can give them back, and something be defined.  Then the reader
gives back the very schema, also after a header without tokens. -/
theorem Document.Named.read?_text {d : Document} (hnamed : d.Named)
    (hnormal : ∀ x ∈ d, Definition.Normal x) (hd : d ≠ []) {header : String}
    (hheader : ∀ rest, Scans header.toList [] rest) :
    read? (header ++ Document.text d) = some d := by
  have hscan := hnamed.scan_append_text hheader
  have hnesting : withinNesting nestingLimit d.tokens = true := by
    have hnested := Nested.flatMap fun x hx => Nested.definition (hnormal x hx)
    have h := hnested nestingLimit [] (Nat.le_refl _)
    rw [List.append_nil] at h
    exact h
  have hlen : d.length ≤ d.tokens.length := by
    refine length_le_length_flatMap fun x hx => ?_
    obtain ⟨s, ts, htokens, -⟩ := (hnormal x hx).exists_tokens
    exact ⟨s, ts, htokens⟩
  have hread := definitions?_tokens hnormal (Nat.lt_succ_self _) (Nat.lt_succ_of_le hlen)
  have hguard : (guard (withinNesting nestingLimit d.tokens) : Option Unit) = some () :=
    if_pos hnesting
  have hsteps : read? (header ++ Document.text d) =
      (guard (withinNesting nestingLimit d.tokens) : Option Unit).bind fun _ =>
        (definitions? (d.tokens.length + 1) (d.tokens.length + 1) d.tokens).bind fun d =>
          if d.isEmpty then none else some d := by
    rw [read?, hscan]
    rfl
  rw [hsteps, hguard, Option.bind_some, hread, Option.bind_some, if_neg]
  simpa using hd

end GraphLayer.Schema
