namespace TreeLint.Java.Platform

def object : String := "java.lang.Object"

def qualifiedPrefix : String := "java.lang."

/-- Simple names with the simple names of their superclasses, superclasses first.  `Object` and
interfaces have none. -/
def known : List (String × Option String) :=
  [("Object", none),
    ("String", some "Object"),
    ("Thread", some "Object"),
    ("ThreadGroup", some "Object"),
    ("ThreadLocal", some "Object"),
    ("InheritableThreadLocal", some "ThreadLocal"),
    ("Throwable", some "Object"),
    ("Exception", some "Throwable"),
    ("Error", some "Throwable"),
    ("RuntimeException", some "Exception"),
    ("IllegalArgumentException", some "RuntimeException"),
    ("IllegalStateException", some "RuntimeException"),
    ("NullPointerException", some "RuntimeException"),
    ("UnsupportedOperationException", some "RuntimeException"),
    ("IndexOutOfBoundsException", some "RuntimeException"),
    ("ArrayIndexOutOfBoundsException", some "IndexOutOfBoundsException"),
    ("ClassCastException", some "RuntimeException"),
    ("ArithmeticException", some "RuntimeException"),
    ("NumberFormatException", some "IllegalArgumentException"),
    ("InterruptedException", some "Exception"),
    ("CloneNotSupportedException", some "Exception"),
    ("ReflectiveOperationException", some "Exception"),
    ("ClassNotFoundException", some "ReflectiveOperationException"),
    ("VirtualMachineError", some "Error"),
    ("OutOfMemoryError", some "VirtualMachineError"),
    ("StackOverflowError", some "VirtualMachineError"),
    ("AssertionError", some "Error"),
    ("Number", some "Object"),
    ("Integer", some "Number"),
    ("Long", some "Number"),
    ("Short", some "Number"),
    ("Byte", some "Number"),
    ("Double", some "Number"),
    ("Float", some "Number"),
    ("Boolean", some "Object"),
    ("Character", some "Object"),
    ("Void", some "Object"),
    ("Enum", some "Object"),
    ("Record", some "Object"),
    ("Class", some "Object"),
    ("ClassLoader", some "Object"),
    ("Math", some "Object"),
    ("System", some "Object"),
    ("StringBuilder", some "Object"),
    ("StringBuffer", some "Object"),
    ("Runnable", none),
    ("Comparable", none),
    ("Iterable", none),
    ("AutoCloseable", none),
    ("CharSequence", none),
    ("Cloneable", none),
    ("Appendable", none),
    ("Readable", none)]

def isKnown (simple : String) : Bool := known.any (·.1 == simple)

/-- The superclasses of a type, nearest first, read off a list with superclasses last. -/
def climbFrom (name : String) : List (String × Option String) → List String
  | [] => []
  | (entry, parent?) :: rest =>
      if entry = name then
        match parent? with
        | some parent => (qualifiedPrefix ++ parent) :: climbFrom parent rest
        | none => []
      else climbFrom name rest

def simple? (qualifiedName : String) : Option String :=
  if qualifiedName.startsWith qualifiedPrefix then
    some (qualifiedName.drop qualifiedPrefix.length).toString
  else none

/-- The superclasses of a class declared elsewhere, nearest first: known ones from the list, of
other classes only `Object`. -/
def superclasses (qualifiedName : String) : List String :=
  match (simple? qualifiedName).filter isKnown with
  | some simple => climbFrom simple known.reverse
  | none => [object]

def isInterface (qualifiedName : String) : Bool :=
  qualifiedName != object &&
    ((simple? qualifiedName).bind fun simple => known.lookup simple).any (·.isNone)

end TreeLint.Java.Platform
