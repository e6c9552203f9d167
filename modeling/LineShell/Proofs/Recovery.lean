import LineShell.Proofs.Grouping

/-!
# Marks that miss a command

A semicolon is meant to end a statement, and a connective that misses a command is meant to stand
for the one it has.  Where marks follow each other both hold most of the time, and this file says
exactly when.

* `parse_semicolon_iff` — a semicolon separates the statements before it from those behind it,
  unless it is *swallowed*: passed over in the middle of a chain, between a connective that waits
  for its right side and a connective that goes on.
* `Row.parse_tokens_eq_iff` — calls with runs of connectives between them are one statement
  exactly if each of these runs has an odd length.  A run of even length ends the statement, and
  the call behind it starts a new one.

Both come from `parse_eq_chains`: a mark without a command is part of a gap, and `Item.joint?` looks
at nothing but the gap.
-/

set_option autoImplicit false
namespace LineShell

/-! ## Gaps by position -/

namespace Item

/-- Every second item, from the first to the last, is a connective. -/
def Alternating (gap : List Item) : Prop :=
  gap.length % 2 = 1 ∧ ∀ i < gap.length, i % 2 = 0 → ∃ k, gap[i]? = some (.connective k)

theorem leadsOn_iff (gap : List Item) :
    leadsOn gap = true ↔
      gap.length % 2 = 0 ∧ ∀ i < gap.length, i % 2 = 1 → ∃ k, gap[i]? = some (.connective k) := by
  fun_induction leadsOn gap with
  | case1 => simp
  | case2 x k gap ih =>
    rw [ih]
    constructor
    · rintro ⟨hlen, hgap⟩
      refine ⟨by simp only [List.length_cons]; omega, fun i hi hodd => ?_⟩
      match i, hodd with
      | 1, _ => exact ⟨k, rfl⟩
      | i + 2, hodd =>
        simp only [List.length_cons] at hi
        exact hgap i (by omega) (by omega)
    · rintro ⟨hlen, hgap⟩
      simp only [List.length_cons] at hlen
      refine ⟨by omega, fun i hi hodd => ?_⟩
      exact hgap (i + 2) (by simp only [List.length_cons]; omega) (by omega)
  | case3 gap hnil hpair =>
    constructor
    · intro h
      exact absurd h (by simp)
    · rintro ⟨hlen, hgap⟩
      match gap with
      | [] => exact absurd rfl hnil
      | [x] => simp at hlen
      | x :: y :: gap =>
        obtain ⟨k, hk⟩ := hgap 1 (by simp) rfl
        rw [List.getElem?_cons_succ, List.getElem?_cons_zero, Option.some_inj] at hk
        exact (hpair x k gap (by rw [hk])).elim

theorem alternating_cons_iff (x : Item) (gap : List Item) :
    Alternating (x :: gap) ↔ (∃ k, x = .connective k) ∧ leadsOn gap = true := by
  rw [leadsOn_iff, Alternating, List.length_cons]
  constructor
  · rintro ⟨hlen, hgap⟩
    obtain ⟨k, hk⟩ := hgap 0 (by omega) rfl
    refine ⟨⟨k, by simpa using hk⟩, by omega, fun i hi hodd => ?_⟩
    simpa using hgap (i + 1) (by omega) (by omega)
  · rintro ⟨⟨k, rfl⟩, hlen, hgap⟩
    refine ⟨by omega, fun i hi heven => ?_⟩
    match i, heven with
    | 0, _ => exact ⟨k, rfl⟩
    | i + 1, heven => simpa using hgap i (by omega) (by omega)

/-- **The calls around a gap are joined exactly if the gap is alternating.** -/
theorem isSome_joint?_iff (gap : List Item) : (joint? gap).isSome = true ↔ Alternating gap := by
  cases gap with
  | nil => simp [joint?, Alternating]
  | cons x gap =>
    rw [alternating_cons_iff]
    cases x with
    | connective k => cases h : leadsOn gap <;> simp [joint?, h]
    | _ => simp [joint?]

end Item

/-! ## Layouts one after the other -/

namespace Layout

/-- The items behind the last call. -/
def lastGap : List (Call × List Item) → List Item
  | [] => []
  | [(_, gap)] => gap
  | _ :: calls => lastGap calls

theorem lastGap_cons (call : Call × List Item) {calls : List (Call × List Item)} (h : calls ≠ []) :
    lastGap (call :: calls) = lastGap calls := by
  cases calls with
  | nil => exact absurd rfl h
  | cons => rfl

/-- Calls with more items behind the last one. -/
def extend : List (Call × List Item) → List Item → List (Call × List Item)
  | [], _ => []
  | [(c, gap)], more => [(c, gap ++ more)]
  | call :: calls, more => call :: extend calls more

theorem extend_cons (call : Call × List Item) {calls : List (Call × List Item)} (h : calls ≠ [])
    (more : List Item) : extend (call :: calls) more = call :: extend calls more := by
  cases calls with
  | nil => exact absurd rfl h
  | cons => rfl

theorem extend_ne_nil {calls : List (Call × List Item)} (h : calls ≠ []) (more : List Item) :
    extend calls more ≠ [] := by
  fun_cases extend calls more with
  | case1 => exact absurd rfl h
  | case2 => simp
  | case3 => simp

theorem lastGap_extend {calls : List (Call × List Item)} (h : calls ≠ []) (more : List Item) :
    lastGap (extend calls more) = lastGap calls ++ more := by
  induction calls with
  | nil => exact absurd rfl h
  | cons call calls ih =>
    by_cases hc : calls = []
    · subst hc
      rfl
    · rw [extend_cons call hc, lastGap_cons call (extend_ne_nil hc more), lastGap_cons call hc,
        ih hc]

/-- The layout of two lists of items, one after the other. -/
theorem ofItems_append (a b : List Item) :
    ofItems (a ++ b) =
      if (ofItems a).calls = [] then ⟨(ofItems a).lead ++ (ofItems b).lead, (ofItems b).calls⟩
      else ⟨(ofItems a).lead, extend (ofItems a).calls (ofItems b).lead ++ (ofItems b).calls⟩ := by
  induction a with
  | nil => rfl
  | cons x a ih =>
    rw [List.cons_append]
    obtain ⟨program, args, rfl⟩ | hx := x.eq_simple_or
    · simp only [ofItems, ih, reduceCtorEq, if_false]
      split
      · rename_i h
        rw [h]
        rfl
      · rename_i h
        rw [extend_cons _ h, List.cons_append]
    · rw [ofItems_cons_of_not_command hx, ofItems_cons_of_not_command hx, ih]
      split <;> rfl

end Layout

/-! ## Chains one after the other -/

namespace Chain

/-- A chain that goes on with another one behind a connective. -/
def append : Chain → Connective → Chain → Chain
  | .one c, k, d => .link c k d
  | .link c k' rest, k, d => .link c k' (rest.append k d)

/-- Two lists of chains, one after the other.  If there is a joint, the last chain of the first
list goes on with the first chain of the second. -/
def splice (joint : Option Connective) : List Chain → List Chain → List Chain
  | [], ds => ds
  | [c], d :: ds =>
    match joint with
    | some k => c.append k d :: ds
    | none => c :: d :: ds
  | c :: cs, ds => c :: splice joint cs ds

theorem splice_none (cs ds : List Chain) : splice none cs ds = cs ++ ds := by
  fun_induction splice none cs ds with
  | case1 => rfl
  | case2 => contradiction
  | case3 => rfl
  | case4 c cs ds h ih => rw [ih, List.cons_append]

theorem splice_nil_right (joint : Option Connective) (cs : List Chain) :
    splice joint cs [] = cs := by
  induction cs with
  | nil => rfl
  | cons c cs ih => rw [splice, ih]; simp

theorem splice_cons (joint : Option Connective) (c : Chain) {cs : List Chain} (h : cs ≠ [])
    (ds : List Chain) : splice joint (c :: cs) ds = c :: splice joint cs ds := by
  cases cs with
  | nil => exact absurd rfl h
  | cons => rfl

/-- A joint makes one chain out of two. -/
theorem length_splice_some (k : Connective) {cs ds : List Chain} (hc : cs ≠ []) (hd : ds ≠ []) :
    (splice (some k) cs ds).length + 1 = cs.length + ds.length := by
  obtain ⟨d, ds, rfl⟩ := List.exists_cons_of_ne_nil hd
  induction cs with
  | nil => exact absurd rfl hc
  | cons c cs ih =>
    by_cases h : cs = []
    · subst h
      simp only [splice, List.length_cons, List.length_nil]
      omega
    · have := ih h
      rw [splice_cons _ _ h, List.length_cons, List.length_cons]
      omega

/-- What stands in front of a chain does not matter for what goes on behind it. -/
theorem prepend_splice (c : Call) (k : Option Connective) (joint : Option Connective)
    {cs : List Chain} (hc : cs ≠ []) (ds : List Chain) :
    Layout.prepend c k (splice joint cs ds) = splice joint (Layout.prepend c k cs) ds := by
  obtain ⟨e, es, rfl⟩ := List.exists_cons_of_ne_nil hc
  cases k with
  | none => rfl
  | some k =>
    cases es with
    | cons f es => rfl
    | nil =>
      cases ds with
      | nil => rfl
      | cons d ds => cases joint <;> rfl

end Chain

namespace Layout

theorem prepend_ne_nil (c : Call) (k : Option Connective) (cs : List Chain) :
    prepend c k cs ≠ [] := by
  fun_cases prepend c k cs <;> simp

theorem prepend_nil (c : Call) (k : Option Connective) : prepend c k [] = [.one c] := by
  cases k <;> rfl

theorem chains_eq_nil_iff (calls : List (Call × List Item)) : chains calls = [] ↔ calls = [] := by
  cases calls with
  | nil => simp [chains]
  | cons call calls => simpa [chains] using prepend_ne_nil _ _ _

/-- What stands behind the last call joins it to nothing. -/
theorem chains_extend (calls : List (Call × List Item)) (more : List Item) :
    chains (extend calls more) = chains calls := by
  fun_induction extend calls more with
  | case1 => rfl
  | case2 c gap more =>
    rw [chains, chains, chains, prepend_nil]
    exact (prepend_nil c _).symm
  | case3 call calls more h ih => rw [chains, chains, ih]

/-- **Between two lists of calls only the gap between them counts.** -/
theorem chains_append (calls more : List (Call × List Item)) :
    chains (calls ++ more) =
      Chain.splice (Item.joint? (lastGap calls)) (chains calls) (chains more) := by
  induction calls with
  | nil => rfl
  | cons call calls ih =>
    obtain ⟨c, gap⟩ := call
    rw [List.cons_append, chains, ih, chains]
    by_cases h : calls = []
    · subst h
      rw [show lastGap [(c, gap)] = gap from rfl]
      cases chains more with
      | nil => cases Item.joint? gap <;> rfl
      | cons d ds => cases Item.joint? gap <;> rfl
    · rw [lastGap_cons _ h, Chain.prepend_splice]
      rwa [Ne, chains_eq_nil_iff]

end Layout

/-! ## Semicolons -/

namespace Item

/-- A semicolon keeps the items before it apart from those behind it. -/
theorem ofTokens_append_semicolon {ts : List Token} (hts : ∀ t ∈ ts, t.kind ≠ .endOfInput)
    (lexeme : String) (us : List Token) :
    ofTokens (ts ++ ⟨.semicolon, lexeme⟩ :: us) = ofTokens ts ++ .semicolon :: ofTokens us := by
  induction ts with
  | nil => rfl
  | cons t ts ih =>
    have ht := hts t List.mem_cons_self
    have ih := ih fun u hu => hts u (List.mem_cons_of_mem _ hu)
    obtain ⟨kind, text⟩ := t
    cases kind with
    | endOfInput => exact absurd rfl ht
    | programName =>
      have hfresh := startsFresh_semicolon (ofTokens us)
      rw [List.cons_append, ofTokens, ofTokens, ih, hfresh.leadingArgs_append,
        hfresh.dropArgs_append, List.cons_append]
    | argument => rw [List.cons_append, ofTokens, ofTokens, ih, List.cons_append]
    | semicolon => rw [List.cons_append, ofTokens, ofTokens, ih, List.cons_append]
    | connective k => rw [List.cons_append, ofTokens, ofTokens, ih, List.cons_append]

end Item

/-- The items between the last call of one list of tokens and the first call of another, if a
semicolon stands between the lists. -/
def seam (ts us : List Token) : List Item :=
  Layout.lastGap (Layout.ofTokens ts).calls ++ .semicolon :: (Layout.ofTokens us).lead

/-- The semicolon between two lists of tokens is *swallowed* if there is a call on either side and
every second item between the two calls, from the first to the last, is a connective. -/
structure Swallowed (ts us : List Token) : Prop where
  /-- There is a call before the semicolon. -/
  before : (Layout.ofTokens ts).calls ≠ []
  /-- There is a call behind it. -/
  behind : (Layout.ofTokens us).calls ≠ []
  /-- The items between the two calls. -/
  alternating : Item.Alternating (seam ts us)

/-- The chains around a semicolon: if it is swallowed, the last chain before it goes on with the
first one behind it. -/
theorem Chain.ofTokens_append_semicolon {ts : List Token} (hts : ∀ t ∈ ts, t.kind ≠ .endOfInput)
    (lexeme : String) (us : List Token) :
    Chain.ofTokens (ts ++ ⟨.semicolon, lexeme⟩ :: us) =
      Chain.splice (Item.joint? (seam ts us)) (Chain.ofTokens ts) (Chain.ofTokens us) := by
  have hsemi := Layout.ofItems_cons_of_not_command (x := .semicolon) rfl (Item.ofTokens us)
  rw [Chain.ofTokens, Layout.ofTokens, Item.ofTokens_append_semicolon hts, Layout.ofItems_append,
    hsemi]
  split
  · rename_i h
    rw [Chain.ofTokens, Layout.ofTokens, h]
    rfl
  · rename_i h
    rw [Layout.chains_append, Layout.lastGap_extend h, Layout.chains_extend]
    rfl

/-- **When a semicolon separates statements.**  It always does, unless it is swallowed. -/
theorem parse_semicolon_iff {ts : List Token} (hts : ∀ t ∈ ts, t.kind ≠ .endOfInput)
    (lexeme : String) (us : List Token) :
    parse (ts ++ ⟨.semicolon, lexeme⟩ :: us) = parse ts ++ parse us ↔ ¬ Swallowed ts us := by
  rw [parse_eq_chains, parse_eq_chains, parse_eq_chains, Chain.ofTokens_append_semicolon hts,
    ← List.map_append]
  constructor
  · rintro h ⟨hbefore, hbehind, halt⟩
    rw [← Item.isSome_joint?_iff, Option.isSome_iff_exists] at halt
    obtain ⟨k, hk⟩ := halt
    rw [Ne, ← Layout.chains_eq_nil_iff] at hbefore hbehind
    have hlen := congrArg List.length h
    have hone := Chain.length_splice_some k hbefore hbehind
    rw [hk, List.length_map, List.length_map, List.length_append] at hlen
    simp only [Chain.ofTokens] at hlen
    omega
  · intro h
    congr 1
    by_cases hbefore : (Layout.ofTokens ts).calls = []
    · rw [Chain.ofTokens, hbefore]
      rfl
    by_cases hbehind : (Layout.ofTokens us).calls = []
    · rw [Chain.ofTokens, Chain.ofTokens, hbehind, Layout.chains, Chain.splice_nil_right,
        List.append_nil]
    have halt : ¬ Item.Alternating (seam ts us) := fun halt => h ⟨hbefore, hbehind, halt⟩
    rw [← Item.isSome_joint?_iff, Option.not_isSome_iff_eq_none] at halt
    rw [halt, Chain.splice_none]

/-- A connective that waits for its right side finds no command at the semicolon, and the call
behind it is a statement of its own. -/
theorem parse_semicolon_after_connective :
    (∀ t ∈ [⟨.programName, "a"⟩, Token.connective .and], t.kind ≠ .endOfInput) ∧
      parse ([⟨.programName, "a"⟩, Token.connective .and] ++
          ⟨.semicolon, ";"⟩ :: [⟨.programName, "b"⟩]) =
        parse [⟨.programName, "a"⟩, Token.connective .and] ++ parse [⟨.programName, "b"⟩] := by
  have hts : ∀ t ∈ [⟨.programName, "a"⟩, Token.connective .and], t.kind ≠ .endOfInput := by decide
  refine ⟨hts, (parse_semicolon_iff hts ";" _).2 fun h => ?_⟩
  exact absurd h.alternating.1 (by decide)

/-- In `a && ; && b` the semicolon is swallowed: the line is one statement, `a && b`. -/
theorem parse_swallowed_semicolon :
    parse ([⟨.programName, "a"⟩, Token.connective .and] ++
        Token.semicolon :: [Token.connective .and, ⟨.programName, "b"⟩]) ≠
      parse [⟨.programName, "a"⟩, Token.connective .and] ++
        parse [Token.connective .and, ⟨.programName, "b"⟩] := by
  decide

/-! ## Runs of connectives -/

/-- The token of a connective.  Nothing depends on its text. -/
structure Operator where
  /-- The connective. -/
  connective : Connective
  /-- The text of the token. -/
  lexeme : String
  deriving DecidableEq, Repr

namespace Operator

/-- The operator as a token. -/
def token (op : Operator) : Token := ⟨.connective op.connective, op.lexeme⟩

/-- The operator as an item. -/
def item (op : Operator) : Item := .connective op.connective

/-- Operators are items of their own. -/
theorem ofTokens_map_append (ops : List Operator) (ts : List Token) :
    Item.ofTokens (ops.map token ++ ts) = ops.map item ++ Item.ofTokens ts := by
  induction ops with
  | nil => rfl
  | cons op ops ih => rw [List.map_cons, List.cons_append, token, Item.ofTokens, ih]; rfl

/-- Of a run of operators every second one is passed over. -/
theorem leadsOn_map : ∀ ops : List Operator,
    Item.leadsOn (ops.map item) = decide (ops.length % 2 = 0)
  | [] => rfl
  | [op] => rfl
  | op :: op' :: ops => by
    have h : (ops.length + 1 + 1) % 2 = ops.length % 2 := by omega
    rw [List.map_cons, List.map_cons, item, item, Item.leadsOn, leadsOn_map ops]
    simp only [List.length_cons, h]

/-- The layout of operators in front of other tokens. -/
theorem layout_map_append (ops : List Operator) (ts : List Token) :
    Layout.ofTokens (ops.map token ++ ts) =
      ⟨ops.map item ++ (Layout.ofTokens ts).lead, (Layout.ofTokens ts).calls⟩ := by
  rw [Layout.ofTokens, ofTokens_map_append]
  induction ops with
  | nil => rfl
  | cons op ops ih =>
    rw [List.map_cons, List.cons_append, Layout.ofItems_cons_of_not_command rfl, ih]
    rfl

/-- Operators do not continue a call in front of them. -/
theorem startsFresh (ops : List Operator) {ts : List Token} (h : ops ≠ [] ∨ ts = []) :
    Item.StartsFresh (Item.ofTokens (ops.map token ++ ts)) := by
  rw [ofTokens_map_append]
  cases ops with
  | nil =>
    rw [h.resolve_left fun hne => hne rfl]
    exact Item.startsFresh_nil
  | cons op ops => exact Item.startsFresh_connective _ _

end Operator

/-- Calls with operators between them: at least one between two calls, and any number behind the
last one. -/
inductive Row where
  /-- The last call, and the operators behind it. -/
  | last (c : Call) (trail : List Operator)
  /-- A call, the run of operators behind it, and the row that follows. -/
  | next (c : Call) (op : Operator) (more : List Operator) (rest : Row)
  deriving DecidableEq, Repr

namespace Row

/-- The tokens of a row. -/
def tokens : Row → List Token
  | .last c trail => c.tokens ++ trail.map Operator.token
  | .next c op more rest => c.tokens ++ ((op :: more).map Operator.token ++ rest.tokens)

/-- All the calls of a row in one chain, with the first operator of each run between them. -/
def chain : Row → Chain
  | .last c _ => .one c
  | .next c op _ rest => .link c op.connective rest.chain

/-- The lengths of the runs between two calls. -/
def runLengths : Row → List Nat
  | .last _ _ => []
  | .next _ _ more rest => (more.length + 1) :: rest.runLengths

/-- The chains of a row, if runs of even length end a statement. -/
def chains : Row → List Chain
  | .last c _ => [.one c]
  | .next c op more rest =>
    Layout.prepend c (if more.length % 2 = 0 then some op.connective else none) rest.chains

/-! ### The layout of a row -/

/-- The connective that a run of operators joins with. -/
theorem joint?_operators (op : Operator) (more : List Operator) :
    Item.joint? ((op :: more).map Operator.item) =
      if more.length % 2 = 0 then some op.connective else none := by
  rw [List.map_cons, Operator.item, Item.joint?, Operator.leadsOn_map]
  simp only [decide_eq_true_eq]

/-- A row starts with a call, and its layout gathers its chains. -/
theorem layout_tokens (r : Row) :
    (Layout.ofTokens r.tokens).lead = [] ∧ Chain.ofTokens r.tokens = r.chains := by
  induction r with
  | last c trail =>
    have hcall := Layout.ofTokens_call_append c _ (Operator.startsFresh trail (.inr rfl))
    rw [Operator.layout_map_append, List.append_nil] at hcall
    rw [Chain.ofTokens, tokens, hcall]
    exact ⟨rfl, Layout.prepend_nil c _⟩
  | next c op more rest ih =>
    obtain ⟨hlead, hchains⟩ := ih
    have hcall := Layout.ofTokens_call_append c ((op :: more).map Operator.token ++ rest.tokens)
      (Operator.startsFresh (op :: more) (.inl (by simp)))
    rw [Operator.layout_map_append, hlead, List.append_nil] at hcall
    rw [Chain.ofTokens, tokens, hcall, Layout.chains, joint?_operators]
    refine ⟨rfl, ?_⟩
    rw [chains, ← hchains]
    rfl

theorem length_prepend_some (c : Call) (k : Connective) {cs : List Chain} (h : cs ≠ []) :
    (Layout.prepend c (some k) cs).length = cs.length := by
  cases cs with
  | nil => exact absurd rfl h
  | cons => rfl

theorem chains_ne_nil (r : Row) : r.chains ≠ [] := by
  cases r with
  | last => simp [chains]
  | next => exact Layout.prepend_ne_nil _ _ _

/-- Each run of even length costs one more statement. -/
theorem length_chains (r : Row) :
    r.chains.length = r.runLengths.countP (· % 2 = 0) + 1 := by
  induction r with
  | last => rfl
  | next c op more rest ih =>
    rw [chains, runLengths, List.countP_cons]
    split
    · rename_i h
      have hodd : ¬ (more.length + 1) % 2 = 0 := by omega
      rw [length_prepend_some c _ rest.chains_ne_nil, ih, if_neg (by simpa using hodd)]
    · rename_i h
      have heven : (more.length + 1) % 2 = 0 := by omega
      rw [if_pos (by simpa using heven)]
      exact congrArg (· + 1) ih

/-- Runs of odd length keep a row together. -/
theorem chains_eq_singleton {r : Row} (h : ∀ n ∈ r.runLengths, n % 2 = 1) :
    r.chains = [r.chain] := by
  induction r with
  | last => rfl
  | next c op more rest ih =>
    have hodd := h (more.length + 1) List.mem_cons_self
    have ih := ih fun n hn => h n (List.mem_cons_of_mem _ hn)
    rw [chains, ih, if_pos (by omega)]
    rfl

/-- **When a row is one statement.**  Whatever operators stand before it and behind it, its calls
are gathered into chains that end at the runs of even length; so the row is one chain exactly if
there are no such runs. -/
theorem parse_tokens_eq_iff (lead : List Operator) (r : Row) :
    parse (lead.map Operator.token ++ r.tokens) = r.chains.map Chain.toCommand ∧
      (parse (lead.map Operator.token ++ r.tokens) = [r.chain.toCommand] ↔
        ∀ n ∈ r.runLengths, n % 2 = 1) := by
  have hparse : parse (lead.map Operator.token ++ r.tokens) = r.chains.map Chain.toCommand := by
    rw [parse_eq_chains, Chain.ofTokens, Operator.layout_map_append, ← r.layout_tokens.2]
    rfl
  refine ⟨hparse, fun h n hn => ?_, fun h => ?_⟩
  · rw [hparse] at h
    have hlen := congrArg List.length h
    rw [List.length_map, length_chains, List.length_singleton, Nat.add_eq_right,
      List.countP_eq_zero] at hlen
    have := hlen n hn
    simp only [decide_eq_true_eq] at this
    omega
  · rw [hparse, chains_eq_singleton h]
    rfl

/-- In `a && && b` the second connective is passed over and joins nothing: `b` runs whatever
became of `a`. -/
theorem parse_even_run :
    parse (Row.next ⟨"a", []⟩ ⟨.and, "&&"⟩ [⟨.and, "&&"⟩] (.last ⟨"b", []⟩ [])).tokens ≠
      [(Row.next ⟨"a", []⟩ ⟨.and, "&&"⟩ [⟨.and, "&&"⟩] (.last ⟨"b", []⟩ [])).chain.toCommand] := by
  decide

end Row
end LineShell
