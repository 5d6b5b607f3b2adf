import TreeLint.Rule.Basic

namespace TreeLint.Checks.ThreadRun

variable {σ : Type}

def metadata : Metadata where
  key := "S2134"
  name := "Classes extending java.lang.Thread should override the \"run\" method"
  description := "A Thread subclass without run() does nothing when started."
  tags := ["multi-threading", "pitfall"]
  severity := .warning
  activatedByDefault := true
  remediation? := some "5min"

def extendsThread (symbols : SymbolTable) (id : SymbolId) : Bool :=
  ((symbols.superclass? id).bind symbols.type?).any (·.qualifiedName == "java.lang.Thread")

def overridesRun (symbols : SymbolTable) (s : TypeSymbol) : Bool :=
  (symbols.membersNamed s "run").any fun (_, symbol) => symbol.method?.any (·.arity == 0)

def behavior : Behavior σ :=
  .subscription {
    kinds := fun _ => .ok [.class]
    scanFile := fun _ => pure ()
    visitNode := fun input n =>
      match input.symbols? with
      | none => pure ()
      | some symbols =>
          match symbols.typeOf? n with
          | none => pure ()
          | some (id, s) =>
              if extendsThread symbols id && !overridesRun symbols s then
                Scan.addIssue n
                  "Stop extending the Thread class as the \"run\" method is not overridden"
              else pure ()
    leaveNode := fun _ _ => pure ()
    leaveFile := fun _ => pure () }

end TreeLint.Checks.ThreadRun
