import SymbolSearch.Proofs.Syntax.Skipping

set_option autoImplicit false

namespace SymbolSearch.Syntax

def MembersWithin (source : List Char) (start stop : Nat) : List Member → Prop
  | [] => start ≤ stop
  | member :: rest =>
    ∃ own next, Stands source start own next member.row ∧ MembersWithin source next stop rest

mutual

-- An export and its declaration are not told apart by their places; members stand behind the head.
def Node.Within (source : List Char) (start stop : Nat) : Node → Prop
  | .container _ _ row members =>
    ∃ own, Stands source start own stop row ∧ MembersWithin source own stop members
  | .function _ row => ∃ own, Stands source start own stop row
  | .exported (some declaration) (some value) =>
    declaration.Within source start stop ∧ value.Within source start stop
  | .exported (some declaration) none => declaration.Within source start stop
  | .exported none (some value) => value.Within source start stop
  | .exported none none => start ≤ stop
  | .ambient children => NodesWithin source start stop children
  | .other => start ≤ stop

def NodesWithin (source : List Char) (start stop : Nat) : List Node → Prop
  | [] => start ≤ stop
  | node :: rest => ∃ next, node.Within source start next ∧ NodesWithin source next stop rest

end

def LaidOut (source : String) (nodes : List Node) : Prop :=
  NodesWithin source.toList 0 source.toList.length nodes

variable {source : List Char} {start own next stop row first last : Nat}
  {tokens behind : List Token}

theorem MembersWithin.le {members : List Member}
    (within : MembersWithin source start stop members) : start ≤ stop := by
  induction members generalizing start with
  | nil => exact within
  | cons member members ih =>
    obtain ⟨own, next, stands, rest⟩ := within
    exact Nat.le_trans stands.le (ih rest)

theorem MembersWithin.earlier {members : List Member}
    (within : MembersWithin source start stop members) (earlier : first ≤ start) :
    MembersWithin source first stop members := by
  cases members with
  | nil => exact Nat.le_trans earlier within
  | cons member members =>
    obtain ⟨own, next, stands, rest⟩ := within
    exact ⟨own, next, stands.earlier (Nat.le_trans earlier stands.after), rest⟩

theorem members_within {member : List Token → Member × List Token}
    (rows : ∀ token rest, (member (token :: rest)).1.row = token.row)
    (leaves : ∀ tokens, (member tokens).2 <:+ tokens) (fuel : Nat)
    (within : TokensWithin source start stop tokens) :
    MembersWithin source start stop (members member fuel tokens) := by
  induction fuel generalizing start tokens with
  | zero => exact within.le
  | succ fuel ih =>
    cases tokens with
    | nil => exact within.le
    | cons token rest =>
      have further {behind : List Token} (suffix : behind <:+ rest) :
          MembersWithin source start stop (members member fuel behind) := by
        obtain ⟨next, after, laid⟩ := within.suffix (suffix.trans (List.suffix_cons token rest))
        exact (ih laid).earlier after
      have found : MembersWithin source start stop
          ((member (token :: rest)).1 :: members member fuel (member (token :: rest)).2) := by
        obtain ⟨own, stands, laid⟩ := within.stands
        obtain ⟨next, after, laid⟩ := laid.suffix (leaves _)
        rw [← rows token rest] at stands
        exact ⟨own, next, { stands with before := after }, ih laid⟩
      unfold members
      dsimp only
      split
      next => exact further List.suffix_rfl
      split
      next => exact further (skipDecorator_suffix rest)
      split
      next next behind _ =>
        split
        next => exact further (List.suffix_cons next behind)
        next => exact found
      next => exact found

mutual

theorem Node.Within.bounds {node : Node} {start stop : Nat}
    (within : node.Within source start stop) :
    start ≤ stop ∧ ∀ first ≤ start, node.Within source first stop := by
  match node with
  | .container .. =>
    simp only [Node.Within] at within ⊢
    obtain ⟨own, stands, members⟩ := within
    refine ⟨stands.le, ?_⟩
    intro first earlier
    exact ⟨own, stands.earlier (Nat.le_trans earlier stands.after), members⟩
  | .function .. =>
    simp only [Node.Within] at within ⊢
    obtain ⟨own, stands⟩ := within
    refine ⟨stands.le, ?_⟩
    intro first earlier
    exact ⟨own, stands.earlier (Nat.le_trans earlier stands.after)⟩
  | .exported (some declaration) (some value) =>
    simp only [Node.Within] at within ⊢
    obtain ⟨ordered, first⟩ := within.1.bounds
    have value := within.2.bounds.2
    exact ⟨ordered, fun start earlier => ⟨first start earlier, value start earlier⟩⟩
  | .exported (some declaration) none =>
    simp only [Node.Within] at within ⊢
    exact within.bounds
  | .exported none (some value) =>
    simp only [Node.Within] at within ⊢
    exact within.bounds
  | .exported none none =>
    simp only [Node.Within] at within ⊢
    exact ⟨within, fun _ earlier => Nat.le_trans earlier within⟩
  | .ambient children =>
    simp only [Node.Within] at within ⊢
    exact within.bounds
  | .other =>
    simp only [Node.Within] at within ⊢
    exact ⟨within, fun _ earlier => Nat.le_trans earlier within⟩

theorem NodesWithin.bounds {nodes : List Node} {start stop : Nat}
    (within : NodesWithin source start stop nodes) :
    start ≤ stop ∧ ∀ first ≤ start, NodesWithin source first stop nodes := by
  match nodes with
  | [] =>
    simp only [NodesWithin] at within ⊢
    exact ⟨within, fun _ earlier => Nat.le_trans earlier within⟩
  | node :: rest =>
    simp only [NodesWithin] at within ⊢
    obtain ⟨next, here, rest⟩ := within
    refine ⟨Nat.le_trans here.bounds.1 rest.bounds.1, ?_⟩
    intro first earlier
    exact ⟨next, here.bounds.2 first earlier, rest⟩

end

def Reads (source : List Char) (tokens : List Token) (read : Node × List Token) : Prop :=
  ∀ start stop, TokensWithin source start stop tokens →
    ∃ next, read.1.Within source start next ∧ TokensWithin source next stop read.2

def Leaves (source : List Char) (tokens behind : List Token) : Prop :=
  ∀ start stop, TokensWithin source start stop tokens →
    ∃ next, start ≤ next ∧ TokensWithin source next stop behind

theorem Leaves.of_suffix (suffix : behind <:+ tokens) : Leaves source tokens behind := by
  intro start stop within
  exact within.suffix suffix

theorem Leaves.trans {all : List Token} (outer : Leaves source all tokens)
    (inner : Leaves source tokens behind) : Leaves source all behind := by
  intro start stop within
  obtain ⟨middle, before, laid⟩ := outer start stop within
  obtain ⟨next, after, laid⟩ := inner middle stop laid
  exact ⟨next, Nat.le_trans before after, laid⟩

theorem Leaves.tail {token : Token} (leaves : Leaves source tokens (token :: behind)) :
    Leaves source tokens behind :=
  leaves.trans (.of_suffix (List.suffix_cons token behind))

theorem Leaves.ite {condition : Prop} [Decidable condition] {yes no : List Token}
    (onYes : Leaves source tokens yes) (onNo : Leaves source tokens no) :
    Leaves source tokens (if condition then yes else no) := by
  split
  next => exact onYes
  next => exact onNo

theorem Reads.leaves {read : Node × List Token} (reads : Reads source tokens read) :
    Leaves source tokens read.2 := by
  intro start stop within
  obtain ⟨next, node, laid⟩ := reads start stop within
  exact ⟨next, node.bounds.1, laid⟩

theorem Reads.other (leaves : Leaves source tokens behind) :
    Reads source tokens (.other, behind) := by
  intro start stop within
  obtain ⟨next, after, laid⟩ := leaves start stop within
  exact ⟨next, by simpa only [Node.Within] using after, laid⟩

theorem Reads.after {all : List Token} {read : Node × List Token}
    (leaves : Leaves source all tokens) (reads : Reads source tokens read) :
    Reads source all read := by
  intro start stop within
  obtain ⟨middle, before, laid⟩ := leaves start stop within
  obtain ⟨next, node, laid⟩ := reads middle stop laid
  exact ⟨next, node.bounds.2 start before, laid⟩

theorem Token.Within.block {token : Token} {items : List Token} (block : token.block? = some items)
    (within : token.Within source start stop) :
    ∃ own, start ≤ own ∧ TokensWithin source own stop items := by
  unfold Token.block? at block
  split at block
  next =>
    obtain rfl := Option.some.inj block
    rw [Token.Within] at within
    obtain ⟨own, stands, laid⟩ := within
    exact ⟨own, stands.after, laid⟩
  next => simp at block

theorem container_reads {member : List Token → Member × List Token}
    (rows : ∀ token rest, (member (token :: rest)).1.row = token.row)
    (leaves : ∀ tokens, (member tokens).2 <:+ tokens) {head : Token} {rest items : List Token}
    {skim : Skim} (suffix : tokens <:+ head :: rest)
    (found : findBody skim tokens = some (items, behind))
    (sort : ContainerSort) (name : Option String) (fuel : Nat) :
    Reads source (head :: rest)
      (.container sort name head.row (members member fuel items), behind) := by
  intro start stop within
  obtain ⟨own, stands, laid⟩ := within.stands
  obtain ⟨body, block, last⟩ := findBody_suffix found
  obtain ⟨middle, after, laid⟩ := laid.suffix (last.trans suffix)
  rw [TokensWithin] at laid
  obtain ⟨next, here, laid⟩ := laid
  obtain ⟨inner, above, within⟩ := here.block block
  have before := Nat.le_trans after above
  have members := (members_within rows leaves fuel within).earlier before
  refine ⟨next, ?_, laid⟩
  rw [Node.Within]
  exact ⟨own, { stands with before := members.le }, members⟩

theorem Reads.leaf {head : Token} {rest : List Token} {node : Node}
    (suffix : behind <:+ head :: rest)
    (leaf : ∀ start own stop, Stands source start own stop head.row →
      node.Within source start stop) :
    Reads source (head :: rest) (node, behind) := by
  intro start stop within
  obtain ⟨own, stands, laid⟩ := within.stands
  obtain ⟨next, after, laid⟩ := laid.suffix suffix
  exact ⟨next, leaf start own next { stands with before := after }, laid⟩

theorem Reads.bodyless (head : Token) (rest : List Token) (sort : ContainerSort)
    (name : Option String) :
    Reads source (head :: rest) (.container sort name head.row [], []) := by
  apply Reads.leaf List.nil_suffix
  intro start own stop stands
  rw [Node.Within]
  exact ⟨own, stands, stands.before⟩

theorem classNode_reads {head : Token} {rest : List Token} (suffix : tokens <:+ head :: rest) :
    Reads source (head :: rest) (classNode head.row tokens) := by
  unfold classNode
  split
  next found => exact container_reads classMember_row classMember_suffix suffix found _ _ _
  next => exact .bodyless _ _ _ _

theorem interfaceNode_reads {head : Token} {rest : List Token} (suffix : tokens <:+ head :: rest) :
    Reads source (head :: rest) (interfaceNode head.row tokens) := by
  unfold interfaceNode
  split
  next found => exact container_reads interfaceMember_row interfaceMember_suffix suffix found _ _ _
  next => exact .bodyless _ _ _ _

theorem functionNode_reads {head : Token} {rest : List Token} (suffix : tokens <:+ head :: rest) :
    Reads source (head :: rest) (functionNode head.row tokens) := by
  unfold functionNode
  apply Reads.leaf ((findFunctionBody_suffix ..).trans ((functionHead_suffix tokens).trans suffix))
  intro start own stop stands
  split
  next =>
    rw [Node.Within]
    exact ⟨own, stands⟩
  next =>
    rw [Node.Within]
    exact stands.le

theorem opening_reads {opening : Opening} (found : opening? tokens = some opening) :
    Reads source tokens opening.node := by
  unfold opening? at found
  split at found
  next => simp at found
  next first rest =>
    have decorators := skipDecorators_suffix (first :: rest).length (first :: rest)
    split at found
    next token tail here =>
      rw [here] at decorators
      have suffix := (List.suffix_cons token tail).trans decorators
      split at found
      next =>
        obtain rfl := Option.some.inj found
        exact classNode_reads suffix
      split at found
      next =>
        split at found
        next next behind =>
          split at found
          next =>
            obtain rfl := Option.some.inj found
            exact classNode_reads ((List.suffix_cons next behind).trans suffix)
          next => simp at found
        next => simp at found
      split at found
      next =>
        obtain rfl := Option.some.inj found
        exact .after (.of_suffix decorators) (interfaceNode_reads (List.suffix_cons token tail))
      split at found
      next =>
        obtain rfl := Option.some.inj found
        exact .after (.of_suffix decorators) (functionNode_reads (List.suffix_cons token tail))
      split at found
      next =>
        obtain rfl := Option.some.inj found
        have behind := (List.tail_suffix tail).trans (List.suffix_cons token tail)
        exact .after (.of_suffix decorators) (functionNode_reads behind)
      next => simp at found
    next => simp at found

theorem defaultExport_reads (tokens : List Token) : Reads source tokens (defaultExport tokens) := by
  unfold defaultExport
  split
  next opening found =>
    intro start stop within
    obtain ⟨next, node, laid⟩ := opening_reads found start stop within
    refine ⟨next, ?_, laid⟩
    dsimp only
    split
    next => simpa only [Node.Within] using node
    next => simpa only [Node.Within] using node
  next =>
    intro start stop within
    obtain ⟨next, after, laid⟩ := within.suffix (skipStatementTail_suffix Skim.expression tokens)
    exact ⟨next, by simpa only [Node.Within] using after, laid⟩

-- The functions that read statements call each other; those that only skip one declare nothing.
structure StatementsRead (source : List Char) (fuel : Nat) : Prop where
  statement : ∀ tokens, Reads source tokens (statement fuel tokens)
  exported : ∀ tokens, Reads source tokens (exportStatement fuel tokens)
  other : ∀ word rest, Leaves source rest (skipOther fuel word rest)

theorem Reads.exported {read : Node × List Token} (reads : Reads source tokens read) :
    Reads source tokens (.exported (some read.1) none, read.2) := by
  intro start stop within
  obtain ⟨next, node, laid⟩ := reads start stop within
  exact ⟨next, by simpa only [Node.Within] using node, laid⟩

theorem Reads.exportedNone (leaves : Leaves source tokens behind) :
    Reads source tokens (.exported none none, behind) := by
  intro start stop within
  obtain ⟨next, after, laid⟩ := leaves start stop within
  exact ⟨next, by simpa only [Node.Within] using after, laid⟩

theorem Reads.ambient {read : Node × List Token} (reads : Reads source tokens read) :
    Reads source tokens (.ambient [read.1], read.2) := by
  intro start stop within
  obtain ⟨next, node, laid⟩ := reads start stop within
  refine ⟨next, ?_, laid⟩
  rw [Node.Within, NodesWithin]
  exact ⟨next, node, by simp [NodesWithin]⟩

theorem statement_reads {fuel : Nat} (reads : StatementsRead source fuel) (tokens : List Token) :
    Reads source tokens (statement (fuel + 1) tokens) := by
  cases tokens with
  | nil =>
    rw [statement]
    exact .other (.of_suffix List.suffix_rfl)
  | cons token rest =>
    have tail : Leaves source (token :: rest) rest := .of_suffix (List.suffix_cons token rest)
    have skims (skim : Skim) : Leaves source rest (skipStatementTail skim rest) :=
      .of_suffix (skipStatementTail_suffix skim rest)
    unfold statement
    dsimp only
    split
    next opening found => exact opening_reads found
    split
    next => exact .other tail
    split
    next => exact .other tail
    split
    next => exact .after (.of_suffix (skipDecorators_suffix ..)) (reads.statement _)
    split
    next => exact .after tail (reads.exported rest)
    next =>
      split
      next next more =>
        split
        next => exact .after tail (.ambient (reads.statement _))
        next => exact .other (tail.trans (skims _))
      next => exact .other (.of_suffix List.nil_suffix)
    next => exact .other (tail.trans (reads.other _ rest))
    next => exact .other (.of_suffix (skipStatementTail_suffix ..))

theorem exportStatement_reads {fuel : Nat} (reads : StatementsRead source fuel)
    (tokens : List Token) : Reads source tokens (exportStatement (fuel + 1) tokens) := by
  cases tokens with
  | nil =>
    rw [exportStatement]
    exact .exportedNone (.of_suffix List.suffix_rfl)
  | cons token rest =>
    rw [exportStatement]
    split
    next => exact .after (.of_suffix (List.suffix_cons token rest)) (defaultExport_reads rest)
    split
    next => exact .exported (reads.statement _)
    next => exact .exportedNone (.of_suffix (skipStatementTail_suffix ..))

theorem skipOther_leaves {fuel : Nat} (reads : StatementsRead source fuel) (word : String)
    (rest : List Token) : Leaves source rest (skipOther (fuel + 1) word rest) := by
  have skims (skim : Skim) : Leaves source rest (skipStatementTail skim rest) :=
    .of_suffix (skipStatementTail_suffix skim rest)
  have tail : Leaves source rest rest.tail := .of_suffix (List.tail_suffix rest)
  have body (skim : Skim) {items behind : List Token}
      (found : findBody skim rest = some (items, behind)) : Leaves source rest behind := by
    obtain ⟨token, _, suffix⟩ := findBody_suffix found
    exact (Leaves.of_suffix suffix).tail
  have further (tokens : List Token) : Leaves source tokens (statement fuel tokens).2 :=
    (reads.statement tokens).leaves
  have group (bracket : Char) (tokens : List Token) :
      Leaves source tokens (skipGroup bracket tokens) :=
    .of_suffix (skipGroup_suffix bracket tokens)
  rw [skipOther]
  -- One case for each kind of statement, in the order in which they are told apart.
  apply Leaves.ite
  · exact tail.trans (further _)
  apply Leaves.ite
  · have behind := tail.trans (further rest.tail)
    dsimp only
    split
    next token more here =>
      rw [here] at behind
      split
      next => exact behind.tail.trans (further more)
      next => exact here ▸ behind
    next => exact .of_suffix List.nil_suffix
  apply Leaves.ite
  · exact tail.trans (further _)
  apply Leaves.ite
  · exact tail.trans ((group '(' _).trans (further _))
  apply Leaves.ite
  · have behind := further rest
    split
    next token more here =>
      rw [here] at behind
      split
      next =>
        have last := behind.tail.trans (group '(' more)
        split
        next sign behind closed =>
          rw [closed] at last
          split
          next => exact last.tail
          next => exact last
        next => exact .of_suffix List.nil_suffix
      next => exact behind
    next => exact .of_suffix List.nil_suffix
  apply Leaves.ite
  · exact (group '{' rest).trans (.of_suffix (skipHandlers_suffix fuel _))
  apply Leaves.ite
  · exact tail.trans (group '{' _)
  apply Leaves.ite
  · exact tail
  apply Leaves.ite
  · split
    next found => exact body _ found
    next => exact skims _
  apply Leaves.ite
  · split
    next found => exact body _ found
    next => exact .of_suffix List.nil_suffix
  apply Leaves.ite
  · exact skims _
  · exact skims _

theorem statementsRead (source : List Char) (fuel : Nat) : StatementsRead source fuel := by
  induction fuel with
  | zero =>
    constructor
    · intro tokens
      rw [statement]
      exact .other (.of_suffix List.nil_suffix)
    · intro tokens
      rw [exportStatement]
      exact .other (.of_suffix List.nil_suffix)
    · intro word rest
      rw [skipOther]
      exact .of_suffix List.nil_suffix
  | succ fuel reads =>
    constructor
    · exact statement_reads reads
    · exact exportStatement_reads reads
    · exact skipOther_leaves reads

theorem statements_within (fuel : Nat) (within : TokensWithin source start stop tokens) :
    NodesWithin source start stop (statements fuel tokens) := by
  induction fuel generalizing start tokens with
  | zero =>
    rw [statements, NodesWithin]
    exact within.le
  | succ fuel ih =>
    cases tokens with
    | nil =>
      rw [statements, NodesWithin]
      exact within.le
    | cons token rest =>
      obtain ⟨next, node, laid⟩ := (statementsRead source _).statement _ start stop within
      rw [statements, NodesWithin]
      exact ⟨next, node, ih laid⟩

theorem outline_laidOut (markup : Bool) (text : String) : LaidOut text (outline markup text) :=
  statements_within _ (tokens_within markup text)

end SymbolSearch.Syntax
