import RouteDoc.Grammar.Builder
import RouteDoc.Grammar.Derivation

/-! The state of a builder in terms of the tokens that it was fed. The innermost part is still open,
so its tokens are only the beginning of a derivation; everything around it is settled and can be
derived already. No token is accepted that leaves these descriptions. -/

namespace RouteDoc.Grammar

theorem ok_of_map {ε α β : Type} {result : Except ε α} {change : α → β} {value : β}
    (ran : result.map change = .ok value) : ∃ before, result = .ok before ∧ change before = value := by
  cases result with
  | error _ => cases ran
  | ok before => exact ⟨before, rfl, Except.ok.inj ran⟩

theorem Many.snoc {part : List Token → α → Prop} {tokens last : List Token} {values : List α} {value : α}
    (many : Many part tokens values) (added : part last value) :
    Many part (tokens ++ last) (values ++ [value]) := by
  induction many with
  | none => simpa using Many.more added .none
  | more first _ ih => simpa only [List.append_assoc, List.cons_append] using Many.more first ih

theorem Many.members {part : List Token → α → Prop} {tokens : List Token} {values : List α}
    (many : Many part tokens values) :
    ∀ value ∈ values, ∃ piece, part piece value ∧ piece ⊆ tokens := by
  induction many with
  | none => exact nofun
  | @more first rest value values head _ ih =>
    intro other member
    obtain rfl | member := List.mem_cons.mp member
    · exact ⟨first, head, List.subset_append_left first rest⟩
    · obtain ⟨piece, derived, inside⟩ := ih other member
      exact ⟨piece, derived, List.subset_append_of_subset_right first inside⟩

/-- Two places that values fill in order, none of them with more than one value. -/
inductive Slots (first second : List Token → Value → Prop) :
    List Token → Option Value → Option Value → Prop
  | bare : Slots first second [] none none
  | one {tokens : List Token} {value : Value} : first tokens value →
      Slots first second tokens (some value) none
  | two {tokens more : List Token} {value other : Value} : first tokens value → second more other →
      Slots first second (tokens ++ more) (some value) (some other)

theorem Slots.split {first second : List Token → Value → Prop} {tokens : List Token} {value : Value}
    {other : Option Value} (slots : Slots first second tokens (some value) other) :
    ∃ taken more, tokens = taken ++ more ∧ first taken value ∧ Perhaps second more other := by
  cases slots with
  | one taken => exact ⟨_, _, (List.append_nil _).symm, taken, .absent⟩
  | two taken more => exact ⟨_, _, rfl, taken, .present more⟩

theorem Slots.fillFirst {first second : List Token → Value → Prop} {tokens last : List Token}
    {value : Value} {other : Option Value} (slots : Slots first second tokens none other)
    (added : first last value) : Slots first second (tokens ++ last) (some value) other := by
  cases slots with
  | bare => exact .one added

theorem Slots.fillSecond {first second : List Token → Value → Prop} {tokens last : List Token}
    {value other : Value} (slots : Slots first second tokens (some value) none)
    (added : second last other) : Slots first second (tokens ++ last) (some value) (some other) := by
  cases slots with
  | one taken => exact .two taken added

variable (dialect : Dialect)

/-- The tokens of an open binding. Its name may still be missing, even after `FROM`. -/
inductive OpenBinding : List Token → Mode → ParamFrame → Prop
  | filling {place : Position} {tokens : List Token} {name default : Option Value} :
      Slots (Text dialect) (Default dialect) tokens name default →
      OpenBinding (.keyword .usingWord :: tokens) .param ⟨place, name, default, []⟩
  | sourcing {place : Position} {tokens sourced : List Token} {name default : Option Value}
      {sources : List Value} :
      Slots (Text dialect) (Default dialect) tokens name default →
      Many (Text dialect) sourced sources.reverse →
      OpenBinding (.keyword .usingWord :: (tokens ++ .keyword .fromWord :: sourced)) .sources
        ⟨place, name, default, sources⟩

/-- The tokens of an invocation without an open binding. Its handler may still be missing. -/
inductive SettledInvocation : List Token → InvokeFrame → Prop
  | mk {place : Position} {tokens bound : List Token} {handler name : Option Value} {params : List Param} :
      Slots (Handler dialect) (Text dialect) tokens handler name →
      Many (Binding dialect) bound params.reverse →
      SettledInvocation (.keyword .doesWord :: (tokens ++ bound)) ⟨place, handler, name, params, none⟩

/-- The tokens of an open invocation; after the first `USING` there is always an open binding. -/
inductive OpenInvocation : List Token → Mode → InvokeFrame → Prop
  | filling {place : Position} {tokens : List Token} {handler name : Option Value} :
      Slots (Handler dialect) (Text dialect) tokens handler name →
      OpenInvocation (.keyword .doesWord :: tokens) .handler ⟨place, handler, name, [], none⟩
  | binding {before opened : List Token} {mode : Mode} {frame : InvokeFrame} {param : ParamFrame} :
      SettledInvocation dialect before frame → OpenBinding dialect opened mode param →
      OpenInvocation (before ++ opened) mode { frame with param := some param }

/-- The tokens of an open command. -/
inductive OpenCommand : List Token → Mode → CommandFrame → Prop
  | includes {word : Token} {tokens : List Token} {place : Position} {name : Option Value} :
      IncludeWord dialect word → Perhaps (Text dialect) tokens name →
      OpenCommand (word :: tokens) .includes (.includes ⟨place, name⟩)
  | invoke {tokens : List Token} {mode : Mode} {frame : InvokeFrame} :
      OpenInvocation dialect tokens mode frame → OpenCommand tokens mode (.invoke frame)

/-- The tokens of a route without an open command. -/
inductive SettledGroup : List Token → RouteFrame → Prop
  | mk {tokens acted : List Token} {name description : Option Value} {commands : List Command} :
      Slots (Text dialect) (Text dialect) tokens name description →
      Many (Action dialect) acted commands.reverse →
      SettledGroup (.keyword .routeWord :: (tokens ++ acted)) ⟨name, description, commands, none⟩

/-- The tokens of an open route; after the first command word there is always an open command. -/
inductive OpenGroup : List Token → Mode → RouteFrame → Prop
  | filling {tokens : List Token} {name description : Option Value} :
      Slots (Text dialect) (Text dialect) tokens name description →
      OpenGroup (.keyword .routeWord :: tokens) .route ⟨name, description, [], none⟩
  | acting {before opened : List Token} {mode : Mode} {frame : RouteFrame} {command : CommandFrame} :
      SettledGroup dialect before frame → OpenCommand dialect opened mode command →
      OpenGroup (before ++ opened) mode { frame with command := some command }

/-- The tokens of a builder without an open route. -/
inductive Settled (label : String) : List Token → Builder → Prop
  | mk {imported routed : List Token} {imports : List (List Value)} {routes : List Route} {mode : Mode} :
      Many (Import dialect) imported imports → Many (Group dialect) routed routes.reverse →
      Settled label (imported ++ routed)
        ⟨dialect, label, imports.flatten.reverse, routes, none, mode⟩

/-- The tokens that lead from a fresh builder to this one. -/
inductive Reached (label : String) : List Token → Builder → Prop
  | top : Reached label [] (.new label dialect)
  | importing {imported tokens : List Token} {imports : List (List Value)} {values : List Value} :
      Many (Import dialect) imported imports → Many (Text dialect) tokens values →
      Reached label (imported ++ .keyword .importWord :: tokens)
        ⟨dialect, label, (imports.flatten ++ values).reverse, [], none, .imports⟩
  | routing {before opened : List Token} {mode : Mode} {builder : Builder} {frame : RouteFrame} :
      Settled dialect label before builder → OpenGroup dialect opened mode frame →
      Reached label (before ++ opened) { builder with route := some frame, mode }

variable {dialect} {label : String}

/-! Closing a part completes its derivation. -/

theorem OpenBinding.close {tokens : List Token} {mode : Mode} {frame : ParamFrame} {param : Param}
    (opened : OpenBinding dialect tokens mode frame) (closed : frame.close = .ok param) :
    Binding dialect tokens param := by
  cases opened with
  | @filling _ _ name _ slots =>
    cases name with
    | none => cases closed
    | some name =>
      cases closed
      obtain ⟨named, defaulted, rfl, first, second⟩ := slots.split
      simpa using Binding.mk first second .absent
  | @sourcing _ _ _ name _ _ slots many =>
    cases name with
    | none => cases closed
    | some name =>
      cases closed
      obtain ⟨named, defaulted, rfl, first, second⟩ := slots.split
      exact Binding.mk first second (.present many)

theorem OpenInvocation.settle {tokens : List Token} {mode : Mode} {frame closed : InvokeFrame}
    (opened : OpenInvocation dialect tokens mode frame) (closing : frame.closeParam = .ok closed) :
    SettledInvocation dialect tokens closed := by
  cases opened with
  | @filling place _ _ _ slots =>
    cases closing
    have settled : SettledInvocation dialect (_ :: (_ ++ [])) ⟨place, _, _, [], none⟩ := .mk slots .none
    simpa using settled
  | binding settled opened =>
    obtain ⟨param, closes, rfl⟩ := ok_of_map closing
    cases settled with
    | mk slots many =>
      have more := many.snoc (opened.close closes)
      simpa using SettledInvocation.mk slots (by simpa using more)

theorem OpenInvocation.close {tokens : List Token} {mode : Mode} {frame : InvokeFrame} {invoke : Invoke}
    (opened : OpenInvocation dialect tokens mode frame) (closed : frame.close = .ok invoke) :
    Action dialect tokens (.invoke invoke) := by
  unfold InvokeFrame.close at closed
  split at closed
  · cases closed
  next settled closing =>
    cases opened.settle closing with
    | @mk _ _ _ handler _ _ slots many =>
      cases handler with
      | none => cases closed
      | some handler =>
        cases closed
        obtain ⟨handled, named, rfl, first, second⟩ := slots.split
        exact Action.invoke first second many

theorem OpenCommand.close {tokens : List Token} {mode : Mode} {frame : CommandFrame} {command : Command}
    (opened : OpenCommand dialect tokens mode frame) (closed : frame.close = .ok command) :
    Action dialect tokens command := by
  cases opened with
  | includes word named =>
    cases named with
    | absent => cases closed
    | present name =>
      cases closed
      exact .includes word name
  | invoke opened =>
    obtain ⟨invoke, closes, rfl⟩ := ok_of_map closed
    exact opened.close closes

theorem OpenGroup.settle {tokens : List Token} {mode : Mode} {frame closed : RouteFrame}
    (opened : OpenGroup dialect tokens mode frame) (closing : frame.closeCommand = .ok closed) :
    SettledGroup dialect tokens closed := by
  cases opened with
  | filling slots =>
    cases closing
    have settled : SettledGroup dialect (_ :: (_ ++ [])) ⟨_, _, [], none⟩ := .mk slots .none
    simpa using settled
  | acting settled opened =>
    obtain ⟨command, closes, rfl⟩ := ok_of_map closing
    cases settled with
    | mk slots many =>
      have more := many.snoc (opened.close closes)
      simpa using SettledGroup.mk slots (by simpa using more)

theorem Slots.head {tokens : List Token} {name description : Option Value}
    (slots : Slots (Text dialect) (Text dialect) tokens name description) :
    Head dialect tokens name description := by
  cases slots with
  | bare => exact .bare
  | one first => exact .named first
  | two first second => exact .described first second

theorem SettledGroup.group {tokens : List Token} {frame : RouteFrame}
    (settled : SettledGroup dialect tokens frame) :
    Group dialect tokens ⟨frame.name, frame.description, frame.commands.reverse⟩ := by
  cases settled with
  | mk slots many => exact .mk slots.head many

theorem Reached.settle {tokens : List Token} {builder closed : Builder}
    (reached : Reached dialect label tokens builder) (closing : builder.closeRoute = .ok closed) :
    Settled dialect label tokens closed := by
  cases reached with
  | top =>
    cases closing
    exact (.mk .none .none : Settled dialect label ([] ++ []) ⟨dialect, label, [].flatten.reverse, [], none, .top⟩)
  | importing imported many =>
    cases closing
    have settled : Settled dialect label (_ ++ []) ⟨_, _, _, [], none, .imports⟩ :=
      .mk (imported.snoc (.mk many)) .none
    simpa using settled
  | routing settled opened =>
    obtain ⟨route, closed, rfl⟩ := ok_of_map closing
    obtain ⟨frame, settling, rfl⟩ := ok_of_map closed
    cases settled with
    | mk imported many =>
      have more := many.snoc (opened.settle settling).group
      simpa using Settled.mk imported (by simpa using more)

end RouteDoc.Grammar
