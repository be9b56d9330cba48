/-!
# Character categories

The general category of a character, with the distinctions between upper and lower case letters,
between kinds of punctuation and between kinds of symbol left out.

`Category.runs` lists, in ascending order, the code point at which each run of characters of one
category starts. A run reaches to the start of the next one.
-/

namespace CellScript.Text

/-- What kind of character a code point is. -/
inductive Category where
  /-- a letter with case -/
  | lc
  /-- a modifier letter -/
  | lm
  /-- any other letter -/
  | lo
  /-- a nonspacing mark -/
  | mn
  /-- an enclosing mark -/
  | me
  /-- a spacing mark -/
  | mc
  /-- a decimal digit -/
  | nd
  /-- a letter that stands for a number -/
  | nl
  /-- any other number -/
  | no
  /-- connecting punctuation -/
  | pc
  /-- any other punctuation -/
  | px
  /-- a modifier symbol -/
  | sk
  /-- any other symbol -/
  | sx
  /-- a space -/
  | zs
  /-- a format control -/
  | cf
  /-- a line or paragraph separator, a control, or no character at all -/
  | cx
  deriving DecidableEq, Inhabited, Repr

namespace Category

/-- A run of characters of one category, named by its first code point. -/
structure Run where
  start : Nat
  category : Category
  deriving Inhabited

/-! ## The table -/

private def runsA : Array Run := #[
  ⟨0x0, .cx⟩, ⟨0x20, .zs⟩, ⟨0x21, .px⟩, ⟨0x24, .sx⟩, ⟨0x25, .px⟩, ⟨0x2b, .sx⟩, ⟨0x2c, .px⟩,
  ⟨0x30, .nd⟩, ⟨0x3a, .px⟩, ⟨0x3c, .sx⟩, ⟨0x3f, .px⟩, ⟨0x41, .lc⟩, ⟨0x5b, .px⟩, ⟨0x5e, .sk⟩,
  ⟨0x5f, .pc⟩, ⟨0x60, .sk⟩, ⟨0x61, .lc⟩, ⟨0x7b, .px⟩, ⟨0x7c, .sx⟩, ⟨0x7d, .px⟩, ⟨0x7e, .sx⟩,
  ⟨0x7f, .cx⟩, ⟨0xa0, .zs⟩, ⟨0xa1, .px⟩, ⟨0xa2, .sx⟩, ⟨0xa7, .px⟩, ⟨0xa8, .sk⟩, ⟨0xa9, .sx⟩,
  ⟨0xaa, .lo⟩, ⟨0xab, .px⟩, ⟨0xac, .sx⟩, ⟨0xad, .cf⟩, ⟨0xae, .sx⟩, ⟨0xaf, .sk⟩, ⟨0xb0, .sx⟩,
  ⟨0xb2, .no⟩, ⟨0xb4, .sk⟩, ⟨0xb5, .lc⟩, ⟨0xb6, .px⟩, ⟨0xb8, .sk⟩, ⟨0xb9, .no⟩, ⟨0xba, .lo⟩,
  ⟨0xbb, .px⟩, ⟨0xbc, .no⟩, ⟨0xbf, .px⟩, ⟨0xc0, .lc⟩, ⟨0xd7, .sx⟩, ⟨0xd8, .lc⟩, ⟨0xf7, .sx⟩,
  ⟨0xf8, .lc⟩, ⟨0x1bb, .lo⟩, ⟨0x1bc, .lc⟩, ⟨0x1c0, .lo⟩, ⟨0x1c4, .lc⟩, ⟨0x294, .lo⟩, ⟨0x295, .lc⟩,
  ⟨0x2b0, .lm⟩, ⟨0x2c2, .sk⟩, ⟨0x2c6, .lm⟩, ⟨0x2d2, .sk⟩, ⟨0x2e0, .lm⟩, ⟨0x2e5, .sk⟩, ⟨0x2ec, .lm⟩,
  ⟨0x2ed, .sk⟩, ⟨0x2ee, .lm⟩, ⟨0x2ef, .sk⟩, ⟨0x300, .mn⟩, ⟨0x370, .lc⟩, ⟨0x374, .lm⟩, ⟨0x375, .sk⟩,
  ⟨0x376, .lc⟩, ⟨0x378, .cx⟩, ⟨0x37a, .lm⟩, ⟨0x37b, .lc⟩, ⟨0x37e, .px⟩, ⟨0x37f, .lc⟩, ⟨0x380, .cx⟩,
  ⟨0x384, .sk⟩, ⟨0x386, .lc⟩, ⟨0x387, .px⟩, ⟨0x388, .lc⟩, ⟨0x38b, .cx⟩, ⟨0x38c, .lc⟩, ⟨0x38d, .cx⟩,
  ⟨0x38e, .lc⟩, ⟨0x3a2, .cx⟩, ⟨0x3a3, .lc⟩, ⟨0x3f6, .sx⟩, ⟨0x3f7, .lc⟩, ⟨0x482, .sx⟩, ⟨0x483, .mn⟩,
  ⟨0x488, .me⟩, ⟨0x48a, .lc⟩, ⟨0x530, .cx⟩, ⟨0x531, .lc⟩, ⟨0x557, .cx⟩, ⟨0x559, .lm⟩, ⟨0x55a, .px⟩,
  ⟨0x560, .lc⟩, ⟨0x589, .px⟩, ⟨0x58b, .cx⟩, ⟨0x58d, .sx⟩, ⟨0x590, .cx⟩, ⟨0x591, .mn⟩, ⟨0x5be, .px⟩,
  ⟨0x5bf, .mn⟩, ⟨0x5c0, .px⟩, ⟨0x5c1, .mn⟩, ⟨0x5c3, .px⟩, ⟨0x5c4, .mn⟩, ⟨0x5c6, .px⟩, ⟨0x5c7, .mn⟩,
  ⟨0x5c8, .cx⟩, ⟨0x5d0, .lo⟩, ⟨0x5eb, .cx⟩, ⟨0x5ef, .lo⟩, ⟨0x5f3, .px⟩, ⟨0x5f5, .cx⟩, ⟨0x600, .cf⟩,
  ⟨0x606, .sx⟩, ⟨0x609, .px⟩, ⟨0x60b, .sx⟩, ⟨0x60c, .px⟩, ⟨0x60e, .sx⟩, ⟨0x610, .mn⟩, ⟨0x61b, .px⟩,
  ⟨0x61c, .cf⟩, ⟨0x61d, .px⟩, ⟨0x620, .lo⟩, ⟨0x640, .lm⟩, ⟨0x641, .lo⟩, ⟨0x64b, .mn⟩, ⟨0x660, .nd⟩,
  ⟨0x66a, .px⟩, ⟨0x66e, .lo⟩, ⟨0x670, .mn⟩, ⟨0x671, .lo⟩, ⟨0x6d4, .px⟩, ⟨0x6d5, .lo⟩, ⟨0x6d6, .mn⟩,
  ⟨0x6dd, .cf⟩, ⟨0x6de, .sx⟩, ⟨0x6df, .mn⟩, ⟨0x6e5, .lm⟩, ⟨0x6e7, .mn⟩, ⟨0x6e9, .sx⟩, ⟨0x6ea, .mn⟩,
  ⟨0x6ee, .lo⟩, ⟨0x6f0, .nd⟩, ⟨0x6fa, .lo⟩, ⟨0x6fd, .sx⟩, ⟨0x6ff, .lo⟩, ⟨0x700, .px⟩, ⟨0x70e, .cx⟩,
  ⟨0x70f, .cf⟩, ⟨0x710, .lo⟩, ⟨0x711, .mn⟩, ⟨0x712, .lo⟩, ⟨0x730, .mn⟩, ⟨0x74b, .cx⟩, ⟨0x74d, .lo⟩,
  ⟨0x7a6, .mn⟩, ⟨0x7b1, .lo⟩, ⟨0x7b2, .cx⟩, ⟨0x7c0, .nd⟩, ⟨0x7ca, .lo⟩, ⟨0x7eb, .mn⟩, ⟨0x7f4, .lm⟩,
  ⟨0x7f6, .sx⟩, ⟨0x7f7, .px⟩, ⟨0x7fa, .lm⟩, ⟨0x7fb, .cx⟩, ⟨0x7fd, .mn⟩, ⟨0x7fe, .sx⟩, ⟨0x800, .lo⟩,
  ⟨0x816, .mn⟩, ⟨0x81a, .lm⟩, ⟨0x81b, .mn⟩, ⟨0x824, .lm⟩, ⟨0x825, .mn⟩, ⟨0x828, .lm⟩, ⟨0x829, .mn⟩,
  ⟨0x82e, .cx⟩, ⟨0x830, .px⟩, ⟨0x83f, .cx⟩, ⟨0x840, .lo⟩, ⟨0x859, .mn⟩, ⟨0x85c, .cx⟩, ⟨0x85e, .px⟩,
  ⟨0x85f, .cx⟩, ⟨0x860, .lo⟩, ⟨0x86b, .cx⟩, ⟨0x870, .lo⟩, ⟨0x888, .sk⟩, ⟨0x889, .lo⟩, ⟨0x88f, .cx⟩,
  ⟨0x890, .cf⟩, ⟨0x892, .cx⟩, ⟨0x898, .mn⟩, ⟨0x8a0, .lo⟩, ⟨0x8c9, .lm⟩, ⟨0x8ca, .mn⟩, ⟨0x8e2, .cf⟩,
  ⟨0x8e3, .mn⟩, ⟨0x903, .mc⟩, ⟨0x904, .lo⟩, ⟨0x93a, .mn⟩, ⟨0x93b, .mc⟩, ⟨0x93c, .mn⟩, ⟨0x93d, .lo⟩,
  ⟨0x93e, .mc⟩, ⟨0x941, .mn⟩, ⟨0x949, .mc⟩, ⟨0x94d, .mn⟩, ⟨0x94e, .mc⟩, ⟨0x950, .lo⟩, ⟨0x951, .mn⟩,
  ⟨0x958, .lo⟩, ⟨0x962, .mn⟩, ⟨0x964, .px⟩, ⟨0x966, .nd⟩, ⟨0x970, .px⟩, ⟨0x971, .lm⟩, ⟨0x972, .lo⟩,
  ⟨0x981, .mn⟩, ⟨0x982, .mc⟩, ⟨0x984, .cx⟩, ⟨0x985, .lo⟩, ⟨0x98d, .cx⟩, ⟨0x98f, .lo⟩, ⟨0x991, .cx⟩,
  ⟨0x993, .lo⟩, ⟨0x9a9, .cx⟩, ⟨0x9aa, .lo⟩, ⟨0x9b1, .cx⟩, ⟨0x9b2, .lo⟩, ⟨0x9b3, .cx⟩, ⟨0x9b6, .lo⟩,
  ⟨0x9ba, .cx⟩, ⟨0x9bc, .mn⟩, ⟨0x9bd, .lo⟩, ⟨0x9be, .mc⟩, ⟨0x9c1, .mn⟩, ⟨0x9c5, .cx⟩, ⟨0x9c7, .mc⟩,
  ⟨0x9c9, .cx⟩, ⟨0x9cb, .mc⟩, ⟨0x9cd, .mn⟩, ⟨0x9ce, .lo⟩, ⟨0x9cf, .cx⟩, ⟨0x9d7, .mc⟩, ⟨0x9d8, .cx⟩,
  ⟨0x9dc, .lo⟩, ⟨0x9de, .cx⟩, ⟨0x9df, .lo⟩, ⟨0x9e2, .mn⟩, ⟨0x9e4, .cx⟩, ⟨0x9e6, .nd⟩, ⟨0x9f0, .lo⟩,
  ⟨0x9f2, .sx⟩, ⟨0x9f4, .no⟩, ⟨0x9fa, .sx⟩, ⟨0x9fc, .lo⟩, ⟨0x9fd, .px⟩, ⟨0x9fe, .mn⟩, ⟨0x9ff, .cx⟩,
  ⟨0xa01, .mn⟩, ⟨0xa03, .mc⟩, ⟨0xa04, .cx⟩, ⟨0xa05, .lo⟩, ⟨0xa0b, .cx⟩, ⟨0xa0f, .lo⟩, ⟨0xa11, .cx⟩,
  ⟨0xa13, .lo⟩, ⟨0xa29, .cx⟩, ⟨0xa2a, .lo⟩, ⟨0xa31, .cx⟩, ⟨0xa32, .lo⟩, ⟨0xa34, .cx⟩, ⟨0xa35, .lo⟩,
  ⟨0xa37, .cx⟩, ⟨0xa38, .lo⟩, ⟨0xa3a, .cx⟩, ⟨0xa3c, .mn⟩, ⟨0xa3d, .cx⟩, ⟨0xa3e, .mc⟩, ⟨0xa41, .mn⟩,
  ⟨0xa43, .cx⟩, ⟨0xa47, .mn⟩, ⟨0xa49, .cx⟩, ⟨0xa4b, .mn⟩, ⟨0xa4e, .cx⟩, ⟨0xa51, .mn⟩, ⟨0xa52, .cx⟩,
  ⟨0xa59, .lo⟩, ⟨0xa5d, .cx⟩, ⟨0xa5e, .lo⟩, ⟨0xa5f, .cx⟩, ⟨0xa66, .nd⟩, ⟨0xa70, .mn⟩]

private def runsB : Array Run := #[
  ⟨0xa72, .lo⟩, ⟨0xa75, .mn⟩, ⟨0xa76, .px⟩, ⟨0xa77, .cx⟩, ⟨0xa81, .mn⟩, ⟨0xa83, .mc⟩, ⟨0xa84, .cx⟩,
  ⟨0xa85, .lo⟩, ⟨0xa8e, .cx⟩, ⟨0xa8f, .lo⟩, ⟨0xa92, .cx⟩, ⟨0xa93, .lo⟩, ⟨0xaa9, .cx⟩, ⟨0xaaa, .lo⟩,
  ⟨0xab1, .cx⟩, ⟨0xab2, .lo⟩, ⟨0xab4, .cx⟩, ⟨0xab5, .lo⟩, ⟨0xaba, .cx⟩, ⟨0xabc, .mn⟩, ⟨0xabd, .lo⟩,
  ⟨0xabe, .mc⟩, ⟨0xac1, .mn⟩, ⟨0xac6, .cx⟩, ⟨0xac7, .mn⟩, ⟨0xac9, .mc⟩, ⟨0xaca, .cx⟩, ⟨0xacb, .mc⟩,
  ⟨0xacd, .mn⟩, ⟨0xace, .cx⟩, ⟨0xad0, .lo⟩, ⟨0xad1, .cx⟩, ⟨0xae0, .lo⟩, ⟨0xae2, .mn⟩, ⟨0xae4, .cx⟩,
  ⟨0xae6, .nd⟩, ⟨0xaf0, .px⟩, ⟨0xaf1, .sx⟩, ⟨0xaf2, .cx⟩, ⟨0xaf9, .lo⟩, ⟨0xafa, .mn⟩, ⟨0xb00, .cx⟩,
  ⟨0xb01, .mn⟩, ⟨0xb02, .mc⟩, ⟨0xb04, .cx⟩, ⟨0xb05, .lo⟩, ⟨0xb0d, .cx⟩, ⟨0xb0f, .lo⟩, ⟨0xb11, .cx⟩,
  ⟨0xb13, .lo⟩, ⟨0xb29, .cx⟩, ⟨0xb2a, .lo⟩, ⟨0xb31, .cx⟩, ⟨0xb32, .lo⟩, ⟨0xb34, .cx⟩, ⟨0xb35, .lo⟩,
  ⟨0xb3a, .cx⟩, ⟨0xb3c, .mn⟩, ⟨0xb3d, .lo⟩, ⟨0xb3e, .mc⟩, ⟨0xb3f, .mn⟩, ⟨0xb40, .mc⟩, ⟨0xb41, .mn⟩,
  ⟨0xb45, .cx⟩, ⟨0xb47, .mc⟩, ⟨0xb49, .cx⟩, ⟨0xb4b, .mc⟩, ⟨0xb4d, .mn⟩, ⟨0xb4e, .cx⟩, ⟨0xb55, .mn⟩,
  ⟨0xb57, .mc⟩, ⟨0xb58, .cx⟩, ⟨0xb5c, .lo⟩, ⟨0xb5e, .cx⟩, ⟨0xb5f, .lo⟩, ⟨0xb62, .mn⟩, ⟨0xb64, .cx⟩,
  ⟨0xb66, .nd⟩, ⟨0xb70, .sx⟩, ⟨0xb71, .lo⟩, ⟨0xb72, .no⟩, ⟨0xb78, .cx⟩, ⟨0xb82, .mn⟩, ⟨0xb83, .lo⟩,
  ⟨0xb84, .cx⟩, ⟨0xb85, .lo⟩, ⟨0xb8b, .cx⟩, ⟨0xb8e, .lo⟩, ⟨0xb91, .cx⟩, ⟨0xb92, .lo⟩, ⟨0xb96, .cx⟩,
  ⟨0xb99, .lo⟩, ⟨0xb9b, .cx⟩, ⟨0xb9c, .lo⟩, ⟨0xb9d, .cx⟩, ⟨0xb9e, .lo⟩, ⟨0xba0, .cx⟩, ⟨0xba3, .lo⟩,
  ⟨0xba5, .cx⟩, ⟨0xba8, .lo⟩, ⟨0xbab, .cx⟩, ⟨0xbae, .lo⟩, ⟨0xbba, .cx⟩, ⟨0xbbe, .mc⟩, ⟨0xbc0, .mn⟩,
  ⟨0xbc1, .mc⟩, ⟨0xbc3, .cx⟩, ⟨0xbc6, .mc⟩, ⟨0xbc9, .cx⟩, ⟨0xbca, .mc⟩, ⟨0xbcd, .mn⟩, ⟨0xbce, .cx⟩,
  ⟨0xbd0, .lo⟩, ⟨0xbd1, .cx⟩, ⟨0xbd7, .mc⟩, ⟨0xbd8, .cx⟩, ⟨0xbe6, .nd⟩, ⟨0xbf0, .no⟩, ⟨0xbf3, .sx⟩,
  ⟨0xbfb, .cx⟩, ⟨0xc00, .mn⟩, ⟨0xc01, .mc⟩, ⟨0xc04, .mn⟩, ⟨0xc05, .lo⟩, ⟨0xc0d, .cx⟩, ⟨0xc0e, .lo⟩,
  ⟨0xc11, .cx⟩, ⟨0xc12, .lo⟩, ⟨0xc29, .cx⟩, ⟨0xc2a, .lo⟩, ⟨0xc3a, .cx⟩, ⟨0xc3c, .mn⟩, ⟨0xc3d, .lo⟩,
  ⟨0xc3e, .mn⟩, ⟨0xc41, .mc⟩, ⟨0xc45, .cx⟩, ⟨0xc46, .mn⟩, ⟨0xc49, .cx⟩, ⟨0xc4a, .mn⟩, ⟨0xc4e, .cx⟩,
  ⟨0xc55, .mn⟩, ⟨0xc57, .cx⟩, ⟨0xc58, .lo⟩, ⟨0xc5b, .cx⟩, ⟨0xc5d, .lo⟩, ⟨0xc5e, .cx⟩, ⟨0xc60, .lo⟩,
  ⟨0xc62, .mn⟩, ⟨0xc64, .cx⟩, ⟨0xc66, .nd⟩, ⟨0xc70, .cx⟩, ⟨0xc77, .px⟩, ⟨0xc78, .no⟩, ⟨0xc7f, .sx⟩,
  ⟨0xc80, .lo⟩, ⟨0xc81, .mn⟩, ⟨0xc82, .mc⟩, ⟨0xc84, .px⟩, ⟨0xc85, .lo⟩, ⟨0xc8d, .cx⟩, ⟨0xc8e, .lo⟩,
  ⟨0xc91, .cx⟩, ⟨0xc92, .lo⟩, ⟨0xca9, .cx⟩, ⟨0xcaa, .lo⟩, ⟨0xcb4, .cx⟩, ⟨0xcb5, .lo⟩, ⟨0xcba, .cx⟩,
  ⟨0xcbc, .mn⟩, ⟨0xcbd, .lo⟩, ⟨0xcbe, .mc⟩, ⟨0xcbf, .mn⟩, ⟨0xcc0, .mc⟩, ⟨0xcc5, .cx⟩, ⟨0xcc6, .mn⟩,
  ⟨0xcc7, .mc⟩, ⟨0xcc9, .cx⟩, ⟨0xcca, .mc⟩, ⟨0xccc, .mn⟩, ⟨0xcce, .cx⟩, ⟨0xcd5, .mc⟩, ⟨0xcd7, .cx⟩,
  ⟨0xcdd, .lo⟩, ⟨0xcdf, .cx⟩, ⟨0xce0, .lo⟩, ⟨0xce2, .mn⟩, ⟨0xce4, .cx⟩, ⟨0xce6, .nd⟩, ⟨0xcf0, .cx⟩,
  ⟨0xcf1, .lo⟩, ⟨0xcf3, .mc⟩, ⟨0xcf4, .cx⟩, ⟨0xd00, .mn⟩, ⟨0xd02, .mc⟩, ⟨0xd04, .lo⟩, ⟨0xd0d, .cx⟩,
  ⟨0xd0e, .lo⟩, ⟨0xd11, .cx⟩, ⟨0xd12, .lo⟩, ⟨0xd3b, .mn⟩, ⟨0xd3d, .lo⟩, ⟨0xd3e, .mc⟩, ⟨0xd41, .mn⟩,
  ⟨0xd45, .cx⟩, ⟨0xd46, .mc⟩, ⟨0xd49, .cx⟩, ⟨0xd4a, .mc⟩, ⟨0xd4d, .mn⟩, ⟨0xd4e, .lo⟩, ⟨0xd4f, .sx⟩,
  ⟨0xd50, .cx⟩, ⟨0xd54, .lo⟩, ⟨0xd57, .mc⟩, ⟨0xd58, .no⟩, ⟨0xd5f, .lo⟩, ⟨0xd62, .mn⟩, ⟨0xd64, .cx⟩,
  ⟨0xd66, .nd⟩, ⟨0xd70, .no⟩, ⟨0xd79, .sx⟩, ⟨0xd7a, .lo⟩, ⟨0xd80, .cx⟩, ⟨0xd81, .mn⟩, ⟨0xd82, .mc⟩,
  ⟨0xd84, .cx⟩, ⟨0xd85, .lo⟩, ⟨0xd97, .cx⟩, ⟨0xd9a, .lo⟩, ⟨0xdb2, .cx⟩, ⟨0xdb3, .lo⟩, ⟨0xdbc, .cx⟩,
  ⟨0xdbd, .lo⟩, ⟨0xdbe, .cx⟩, ⟨0xdc0, .lo⟩, ⟨0xdc7, .cx⟩, ⟨0xdca, .mn⟩, ⟨0xdcb, .cx⟩, ⟨0xdcf, .mc⟩,
  ⟨0xdd2, .mn⟩, ⟨0xdd5, .cx⟩, ⟨0xdd6, .mn⟩, ⟨0xdd7, .cx⟩, ⟨0xdd8, .mc⟩, ⟨0xde0, .cx⟩, ⟨0xde6, .nd⟩,
  ⟨0xdf0, .cx⟩, ⟨0xdf2, .mc⟩, ⟨0xdf4, .px⟩, ⟨0xdf5, .cx⟩, ⟨0xe01, .lo⟩, ⟨0xe31, .mn⟩, ⟨0xe32, .lo⟩,
  ⟨0xe34, .mn⟩, ⟨0xe3b, .cx⟩, ⟨0xe3f, .sx⟩, ⟨0xe40, .lo⟩, ⟨0xe46, .lm⟩, ⟨0xe47, .mn⟩, ⟨0xe4f, .px⟩,
  ⟨0xe50, .nd⟩, ⟨0xe5a, .px⟩, ⟨0xe5c, .cx⟩, ⟨0xe81, .lo⟩, ⟨0xe83, .cx⟩, ⟨0xe84, .lo⟩, ⟨0xe85, .cx⟩,
  ⟨0xe86, .lo⟩, ⟨0xe8b, .cx⟩, ⟨0xe8c, .lo⟩, ⟨0xea4, .cx⟩, ⟨0xea5, .lo⟩, ⟨0xea6, .cx⟩, ⟨0xea7, .lo⟩,
  ⟨0xeb1, .mn⟩, ⟨0xeb2, .lo⟩, ⟨0xeb4, .mn⟩, ⟨0xebd, .lo⟩, ⟨0xebe, .cx⟩, ⟨0xec0, .lo⟩, ⟨0xec5, .cx⟩,
  ⟨0xec6, .lm⟩, ⟨0xec7, .cx⟩, ⟨0xec8, .mn⟩, ⟨0xecf, .cx⟩, ⟨0xed0, .nd⟩, ⟨0xeda, .cx⟩, ⟨0xedc, .lo⟩,
  ⟨0xee0, .cx⟩, ⟨0xf00, .lo⟩, ⟨0xf01, .sx⟩, ⟨0xf04, .px⟩, ⟨0xf13, .sx⟩, ⟨0xf14, .px⟩, ⟨0xf15, .sx⟩,
  ⟨0xf18, .mn⟩, ⟨0xf1a, .sx⟩, ⟨0xf20, .nd⟩, ⟨0xf2a, .no⟩, ⟨0xf34, .sx⟩, ⟨0xf35, .mn⟩]

private def runsC : Array Run := #[
  ⟨0xf36, .sx⟩, ⟨0xf37, .mn⟩, ⟨0xf38, .sx⟩, ⟨0xf39, .mn⟩, ⟨0xf3a, .px⟩, ⟨0xf3e, .mc⟩, ⟨0xf40, .lo⟩,
  ⟨0xf48, .cx⟩, ⟨0xf49, .lo⟩, ⟨0xf6d, .cx⟩, ⟨0xf71, .mn⟩, ⟨0xf7f, .mc⟩, ⟨0xf80, .mn⟩, ⟨0xf85, .px⟩,
  ⟨0xf86, .mn⟩, ⟨0xf88, .lo⟩, ⟨0xf8d, .mn⟩, ⟨0xf98, .cx⟩, ⟨0xf99, .mn⟩, ⟨0xfbd, .cx⟩, ⟨0xfbe, .sx⟩,
  ⟨0xfc6, .mn⟩, ⟨0xfc7, .sx⟩, ⟨0xfcd, .cx⟩, ⟨0xfce, .sx⟩, ⟨0xfd0, .px⟩, ⟨0xfd5, .sx⟩, ⟨0xfd9, .px⟩,
  ⟨0xfdb, .cx⟩, ⟨0x1000, .lo⟩, ⟨0x102b, .mc⟩, ⟨0x102d, .mn⟩, ⟨0x1031, .mc⟩, ⟨0x1032, .mn⟩,
  ⟨0x1038, .mc⟩, ⟨0x1039, .mn⟩, ⟨0x103b, .mc⟩, ⟨0x103d, .mn⟩, ⟨0x103f, .lo⟩, ⟨0x1040, .nd⟩,
  ⟨0x104a, .px⟩, ⟨0x1050, .lo⟩, ⟨0x1056, .mc⟩, ⟨0x1058, .mn⟩, ⟨0x105a, .lo⟩, ⟨0x105e, .mn⟩,
  ⟨0x1061, .lo⟩, ⟨0x1062, .mc⟩, ⟨0x1065, .lo⟩, ⟨0x1067, .mc⟩, ⟨0x106e, .lo⟩, ⟨0x1071, .mn⟩,
  ⟨0x1075, .lo⟩, ⟨0x1082, .mn⟩, ⟨0x1083, .mc⟩, ⟨0x1085, .mn⟩, ⟨0x1087, .mc⟩, ⟨0x108d, .mn⟩,
  ⟨0x108e, .lo⟩, ⟨0x108f, .mc⟩, ⟨0x1090, .nd⟩, ⟨0x109a, .mc⟩, ⟨0x109d, .mn⟩, ⟨0x109e, .sx⟩,
  ⟨0x10a0, .lc⟩, ⟨0x10c6, .cx⟩, ⟨0x10c7, .lc⟩, ⟨0x10c8, .cx⟩, ⟨0x10cd, .lc⟩, ⟨0x10ce, .cx⟩,
  ⟨0x10d0, .lc⟩, ⟨0x10fb, .px⟩, ⟨0x10fc, .lm⟩, ⟨0x10fd, .lc⟩, ⟨0x1100, .lo⟩, ⟨0x1249, .cx⟩,
  ⟨0x124a, .lo⟩, ⟨0x124e, .cx⟩, ⟨0x1250, .lo⟩, ⟨0x1257, .cx⟩, ⟨0x1258, .lo⟩, ⟨0x1259, .cx⟩,
  ⟨0x125a, .lo⟩, ⟨0x125e, .cx⟩, ⟨0x1260, .lo⟩, ⟨0x1289, .cx⟩, ⟨0x128a, .lo⟩, ⟨0x128e, .cx⟩,
  ⟨0x1290, .lo⟩, ⟨0x12b1, .cx⟩, ⟨0x12b2, .lo⟩, ⟨0x12b6, .cx⟩, ⟨0x12b8, .lo⟩, ⟨0x12bf, .cx⟩,
  ⟨0x12c0, .lo⟩, ⟨0x12c1, .cx⟩, ⟨0x12c2, .lo⟩, ⟨0x12c6, .cx⟩, ⟨0x12c8, .lo⟩, ⟨0x12d7, .cx⟩,
  ⟨0x12d8, .lo⟩, ⟨0x1311, .cx⟩, ⟨0x1312, .lo⟩, ⟨0x1316, .cx⟩, ⟨0x1318, .lo⟩, ⟨0x135b, .cx⟩,
  ⟨0x135d, .mn⟩, ⟨0x1360, .px⟩, ⟨0x1369, .no⟩, ⟨0x137d, .cx⟩, ⟨0x1380, .lo⟩, ⟨0x1390, .sx⟩,
  ⟨0x139a, .cx⟩, ⟨0x13a0, .lc⟩, ⟨0x13f6, .cx⟩, ⟨0x13f8, .lc⟩, ⟨0x13fe, .cx⟩, ⟨0x1400, .px⟩,
  ⟨0x1401, .lo⟩, ⟨0x166d, .sx⟩, ⟨0x166e, .px⟩, ⟨0x166f, .lo⟩, ⟨0x1680, .zs⟩, ⟨0x1681, .lo⟩,
  ⟨0x169b, .px⟩, ⟨0x169d, .cx⟩, ⟨0x16a0, .lo⟩, ⟨0x16eb, .px⟩, ⟨0x16ee, .nl⟩, ⟨0x16f1, .lo⟩,
  ⟨0x16f9, .cx⟩, ⟨0x1700, .lo⟩, ⟨0x1712, .mn⟩, ⟨0x1715, .mc⟩, ⟨0x1716, .cx⟩, ⟨0x171f, .lo⟩,
  ⟨0x1732, .mn⟩, ⟨0x1734, .mc⟩, ⟨0x1735, .px⟩, ⟨0x1737, .cx⟩, ⟨0x1740, .lo⟩, ⟨0x1752, .mn⟩,
  ⟨0x1754, .cx⟩, ⟨0x1760, .lo⟩, ⟨0x176d, .cx⟩, ⟨0x176e, .lo⟩, ⟨0x1771, .cx⟩, ⟨0x1772, .mn⟩,
  ⟨0x1774, .cx⟩, ⟨0x1780, .lo⟩, ⟨0x17b4, .mn⟩, ⟨0x17b6, .mc⟩, ⟨0x17b7, .mn⟩, ⟨0x17be, .mc⟩,
  ⟨0x17c6, .mn⟩, ⟨0x17c7, .mc⟩, ⟨0x17c9, .mn⟩, ⟨0x17d4, .px⟩, ⟨0x17d7, .lm⟩, ⟨0x17d8, .px⟩,
  ⟨0x17db, .sx⟩, ⟨0x17dc, .lo⟩, ⟨0x17dd, .mn⟩, ⟨0x17de, .cx⟩, ⟨0x17e0, .nd⟩, ⟨0x17ea, .cx⟩,
  ⟨0x17f0, .no⟩, ⟨0x17fa, .cx⟩, ⟨0x1800, .px⟩, ⟨0x180b, .mn⟩, ⟨0x180e, .cf⟩, ⟨0x180f, .mn⟩,
  ⟨0x1810, .nd⟩, ⟨0x181a, .cx⟩, ⟨0x1820, .lo⟩, ⟨0x1843, .lm⟩, ⟨0x1844, .lo⟩, ⟨0x1879, .cx⟩,
  ⟨0x1880, .lo⟩, ⟨0x1885, .mn⟩, ⟨0x1887, .lo⟩, ⟨0x18a9, .mn⟩, ⟨0x18aa, .lo⟩, ⟨0x18ab, .cx⟩,
  ⟨0x18b0, .lo⟩, ⟨0x18f6, .cx⟩, ⟨0x1900, .lo⟩, ⟨0x191f, .cx⟩, ⟨0x1920, .mn⟩, ⟨0x1923, .mc⟩,
  ⟨0x1927, .mn⟩, ⟨0x1929, .mc⟩, ⟨0x192c, .cx⟩, ⟨0x1930, .mc⟩, ⟨0x1932, .mn⟩, ⟨0x1933, .mc⟩,
  ⟨0x1939, .mn⟩, ⟨0x193c, .cx⟩, ⟨0x1940, .sx⟩, ⟨0x1941, .cx⟩, ⟨0x1944, .px⟩, ⟨0x1946, .nd⟩,
  ⟨0x1950, .lo⟩, ⟨0x196e, .cx⟩, ⟨0x1970, .lo⟩, ⟨0x1975, .cx⟩, ⟨0x1980, .lo⟩, ⟨0x19ac, .cx⟩,
  ⟨0x19b0, .lo⟩, ⟨0x19ca, .cx⟩, ⟨0x19d0, .nd⟩, ⟨0x19da, .no⟩, ⟨0x19db, .cx⟩, ⟨0x19de, .sx⟩,
  ⟨0x1a00, .lo⟩, ⟨0x1a17, .mn⟩, ⟨0x1a19, .mc⟩, ⟨0x1a1b, .mn⟩, ⟨0x1a1c, .cx⟩, ⟨0x1a1e, .px⟩,
  ⟨0x1a20, .lo⟩, ⟨0x1a55, .mc⟩, ⟨0x1a56, .mn⟩, ⟨0x1a57, .mc⟩, ⟨0x1a58, .mn⟩, ⟨0x1a5f, .cx⟩,
  ⟨0x1a60, .mn⟩, ⟨0x1a61, .mc⟩, ⟨0x1a62, .mn⟩, ⟨0x1a63, .mc⟩, ⟨0x1a65, .mn⟩, ⟨0x1a6d, .mc⟩,
  ⟨0x1a73, .mn⟩, ⟨0x1a7d, .cx⟩, ⟨0x1a7f, .mn⟩, ⟨0x1a80, .nd⟩, ⟨0x1a8a, .cx⟩, ⟨0x1a90, .nd⟩,
  ⟨0x1a9a, .cx⟩, ⟨0x1aa0, .px⟩, ⟨0x1aa7, .lm⟩, ⟨0x1aa8, .px⟩, ⟨0x1aae, .cx⟩, ⟨0x1ab0, .mn⟩,
  ⟨0x1abe, .me⟩, ⟨0x1abf, .mn⟩, ⟨0x1acf, .cx⟩, ⟨0x1b00, .mn⟩, ⟨0x1b04, .mc⟩, ⟨0x1b05, .lo⟩,
  ⟨0x1b34, .mn⟩, ⟨0x1b35, .mc⟩, ⟨0x1b36, .mn⟩, ⟨0x1b3b, .mc⟩, ⟨0x1b3c, .mn⟩, ⟨0x1b3d, .mc⟩,
  ⟨0x1b42, .mn⟩, ⟨0x1b43, .mc⟩, ⟨0x1b45, .lo⟩, ⟨0x1b4d, .cx⟩, ⟨0x1b50, .nd⟩, ⟨0x1b5a, .px⟩,
  ⟨0x1b61, .sx⟩, ⟨0x1b6b, .mn⟩, ⟨0x1b74, .sx⟩, ⟨0x1b7d, .px⟩, ⟨0x1b7f, .cx⟩, ⟨0x1b80, .mn⟩,
  ⟨0x1b82, .mc⟩, ⟨0x1b83, .lo⟩, ⟨0x1ba1, .mc⟩, ⟨0x1ba2, .mn⟩, ⟨0x1ba6, .mc⟩, ⟨0x1ba8, .mn⟩,
  ⟨0x1baa, .mc⟩, ⟨0x1bab, .mn⟩, ⟨0x1bae, .lo⟩, ⟨0x1bb0, .nd⟩, ⟨0x1bba, .lo⟩, ⟨0x1be6, .mn⟩,
  ⟨0x1be7, .mc⟩, ⟨0x1be8, .mn⟩, ⟨0x1bea, .mc⟩, ⟨0x1bed, .mn⟩, ⟨0x1bee, .mc⟩, ⟨0x1bef, .mn⟩,
  ⟨0x1bf2, .mc⟩, ⟨0x1bf4, .cx⟩, ⟨0x1bfc, .px⟩, ⟨0x1c00, .lo⟩, ⟨0x1c24, .mc⟩, ⟨0x1c2c, .mn⟩,
  ⟨0x1c34, .mc⟩, ⟨0x1c36, .mn⟩, ⟨0x1c38, .cx⟩, ⟨0x1c3b, .px⟩, ⟨0x1c40, .nd⟩, ⟨0x1c4a, .cx⟩,
  ⟨0x1c4d, .lo⟩, ⟨0x1c50, .nd⟩]

private def runsD : Array Run := #[
  ⟨0x1c5a, .lo⟩, ⟨0x1c78, .lm⟩, ⟨0x1c7e, .px⟩, ⟨0x1c80, .lc⟩, ⟨0x1c8b, .cx⟩, ⟨0x1c90, .lc⟩,
  ⟨0x1cbb, .cx⟩, ⟨0x1cbd, .lc⟩, ⟨0x1cc0, .px⟩, ⟨0x1cc8, .cx⟩, ⟨0x1cd0, .mn⟩, ⟨0x1cd3, .px⟩,
  ⟨0x1cd4, .mn⟩, ⟨0x1ce1, .mc⟩, ⟨0x1ce2, .mn⟩, ⟨0x1ce9, .lo⟩, ⟨0x1ced, .mn⟩, ⟨0x1cee, .lo⟩,
  ⟨0x1cf4, .mn⟩, ⟨0x1cf5, .lo⟩, ⟨0x1cf7, .mc⟩, ⟨0x1cf8, .mn⟩, ⟨0x1cfa, .lo⟩, ⟨0x1cfb, .cx⟩,
  ⟨0x1d00, .lc⟩, ⟨0x1d2c, .lm⟩, ⟨0x1d6b, .lc⟩, ⟨0x1d78, .lm⟩, ⟨0x1d79, .lc⟩, ⟨0x1d9b, .lm⟩,
  ⟨0x1dc0, .mn⟩, ⟨0x1e00, .lc⟩, ⟨0x1f16, .cx⟩, ⟨0x1f18, .lc⟩, ⟨0x1f1e, .cx⟩, ⟨0x1f20, .lc⟩,
  ⟨0x1f46, .cx⟩, ⟨0x1f48, .lc⟩, ⟨0x1f4e, .cx⟩, ⟨0x1f50, .lc⟩, ⟨0x1f58, .cx⟩, ⟨0x1f59, .lc⟩,
  ⟨0x1f5a, .cx⟩, ⟨0x1f5b, .lc⟩, ⟨0x1f5c, .cx⟩, ⟨0x1f5d, .lc⟩, ⟨0x1f5e, .cx⟩, ⟨0x1f5f, .lc⟩,
  ⟨0x1f7e, .cx⟩, ⟨0x1f80, .lc⟩, ⟨0x1fb5, .cx⟩, ⟨0x1fb6, .lc⟩, ⟨0x1fbd, .sk⟩, ⟨0x1fbe, .lc⟩,
  ⟨0x1fbf, .sk⟩, ⟨0x1fc2, .lc⟩, ⟨0x1fc5, .cx⟩, ⟨0x1fc6, .lc⟩, ⟨0x1fcd, .sk⟩, ⟨0x1fd0, .lc⟩,
  ⟨0x1fd4, .cx⟩, ⟨0x1fd6, .lc⟩, ⟨0x1fdc, .cx⟩, ⟨0x1fdd, .sk⟩, ⟨0x1fe0, .lc⟩, ⟨0x1fed, .sk⟩,
  ⟨0x1ff0, .cx⟩, ⟨0x1ff2, .lc⟩, ⟨0x1ff5, .cx⟩, ⟨0x1ff6, .lc⟩, ⟨0x1ffd, .sk⟩, ⟨0x1fff, .cx⟩,
  ⟨0x2000, .zs⟩, ⟨0x200b, .cf⟩, ⟨0x2010, .px⟩, ⟨0x2028, .cx⟩, ⟨0x202a, .cf⟩, ⟨0x202f, .zs⟩,
  ⟨0x2030, .px⟩, ⟨0x203f, .pc⟩, ⟨0x2041, .px⟩, ⟨0x2044, .sx⟩, ⟨0x2045, .px⟩, ⟨0x2052, .sx⟩,
  ⟨0x2053, .px⟩, ⟨0x2054, .pc⟩, ⟨0x2055, .px⟩, ⟨0x205f, .zs⟩, ⟨0x2060, .cf⟩, ⟨0x2065, .cx⟩,
  ⟨0x2066, .cf⟩, ⟨0x2070, .no⟩, ⟨0x2071, .lm⟩, ⟨0x2072, .cx⟩, ⟨0x2074, .no⟩, ⟨0x207a, .sx⟩,
  ⟨0x207d, .px⟩, ⟨0x207f, .lm⟩, ⟨0x2080, .no⟩, ⟨0x208a, .sx⟩, ⟨0x208d, .px⟩, ⟨0x208f, .cx⟩,
  ⟨0x2090, .lm⟩, ⟨0x209d, .cx⟩, ⟨0x20a0, .sx⟩, ⟨0x20c1, .cx⟩, ⟨0x20d0, .mn⟩, ⟨0x20dd, .me⟩,
  ⟨0x20e1, .mn⟩, ⟨0x20e2, .me⟩, ⟨0x20e5, .mn⟩, ⟨0x20f1, .cx⟩, ⟨0x2100, .sx⟩, ⟨0x2102, .lc⟩,
  ⟨0x2103, .sx⟩, ⟨0x2107, .lc⟩, ⟨0x2108, .sx⟩, ⟨0x210a, .lc⟩, ⟨0x2114, .sx⟩, ⟨0x2115, .lc⟩,
  ⟨0x2116, .sx⟩, ⟨0x2119, .lc⟩, ⟨0x211e, .sx⟩, ⟨0x2124, .lc⟩, ⟨0x2125, .sx⟩, ⟨0x2126, .lc⟩,
  ⟨0x2127, .sx⟩, ⟨0x2128, .lc⟩, ⟨0x2129, .sx⟩, ⟨0x212a, .lc⟩, ⟨0x212e, .sx⟩, ⟨0x212f, .lc⟩,
  ⟨0x2135, .lo⟩, ⟨0x2139, .lc⟩, ⟨0x213a, .sx⟩, ⟨0x213c, .lc⟩, ⟨0x2140, .sx⟩, ⟨0x2145, .lc⟩,
  ⟨0x214a, .sx⟩, ⟨0x214e, .lc⟩, ⟨0x214f, .sx⟩, ⟨0x2150, .no⟩, ⟨0x2160, .nl⟩, ⟨0x2183, .lc⟩,
  ⟨0x2185, .nl⟩, ⟨0x2189, .no⟩, ⟨0x218a, .sx⟩, ⟨0x218c, .cx⟩, ⟨0x2190, .sx⟩, ⟨0x2308, .px⟩,
  ⟨0x230c, .sx⟩, ⟨0x2329, .px⟩, ⟨0x232b, .sx⟩, ⟨0x2427, .cx⟩, ⟨0x2440, .sx⟩, ⟨0x244b, .cx⟩,
  ⟨0x2460, .no⟩, ⟨0x249c, .sx⟩, ⟨0x24ea, .no⟩, ⟨0x2500, .sx⟩, ⟨0x2768, .px⟩, ⟨0x2776, .no⟩,
  ⟨0x2794, .sx⟩, ⟨0x27c5, .px⟩, ⟨0x27c7, .sx⟩, ⟨0x27e6, .px⟩, ⟨0x27f0, .sx⟩, ⟨0x2983, .px⟩,
  ⟨0x2999, .sx⟩, ⟨0x29d8, .px⟩, ⟨0x29dc, .sx⟩, ⟨0x29fc, .px⟩, ⟨0x29fe, .sx⟩, ⟨0x2b74, .cx⟩,
  ⟨0x2b76, .sx⟩, ⟨0x2b96, .cx⟩, ⟨0x2b97, .sx⟩, ⟨0x2c00, .lc⟩, ⟨0x2c7c, .lm⟩, ⟨0x2c7e, .lc⟩,
  ⟨0x2ce5, .sx⟩, ⟨0x2ceb, .lc⟩, ⟨0x2cef, .mn⟩, ⟨0x2cf2, .lc⟩, ⟨0x2cf4, .cx⟩, ⟨0x2cf9, .px⟩,
  ⟨0x2cfd, .no⟩, ⟨0x2cfe, .px⟩, ⟨0x2d00, .lc⟩, ⟨0x2d26, .cx⟩, ⟨0x2d27, .lc⟩, ⟨0x2d28, .cx⟩,
  ⟨0x2d2d, .lc⟩, ⟨0x2d2e, .cx⟩, ⟨0x2d30, .lo⟩, ⟨0x2d68, .cx⟩, ⟨0x2d6f, .lm⟩, ⟨0x2d70, .px⟩,
  ⟨0x2d71, .cx⟩, ⟨0x2d7f, .mn⟩, ⟨0x2d80, .lo⟩, ⟨0x2d97, .cx⟩, ⟨0x2da0, .lo⟩, ⟨0x2da7, .cx⟩,
  ⟨0x2da8, .lo⟩, ⟨0x2daf, .cx⟩, ⟨0x2db0, .lo⟩, ⟨0x2db7, .cx⟩, ⟨0x2db8, .lo⟩, ⟨0x2dbf, .cx⟩,
  ⟨0x2dc0, .lo⟩, ⟨0x2dc7, .cx⟩, ⟨0x2dc8, .lo⟩, ⟨0x2dcf, .cx⟩, ⟨0x2dd0, .lo⟩, ⟨0x2dd7, .cx⟩,
  ⟨0x2dd8, .lo⟩, ⟨0x2ddf, .cx⟩, ⟨0x2de0, .mn⟩, ⟨0x2e00, .px⟩, ⟨0x2e2f, .lm⟩, ⟨0x2e30, .px⟩,
  ⟨0x2e50, .sx⟩, ⟨0x2e52, .px⟩, ⟨0x2e5e, .cx⟩, ⟨0x2e80, .sx⟩, ⟨0x2e9a, .cx⟩, ⟨0x2e9b, .sx⟩,
  ⟨0x2ef4, .cx⟩, ⟨0x2f00, .sx⟩, ⟨0x2fd6, .cx⟩, ⟨0x2ff0, .sx⟩, ⟨0x3000, .zs⟩, ⟨0x3001, .px⟩,
  ⟨0x3004, .sx⟩, ⟨0x3005, .lm⟩, ⟨0x3006, .lo⟩, ⟨0x3007, .nl⟩, ⟨0x3008, .px⟩, ⟨0x3012, .sx⟩,
  ⟨0x3014, .px⟩, ⟨0x3020, .sx⟩, ⟨0x3021, .nl⟩, ⟨0x302a, .mn⟩, ⟨0x302e, .mc⟩, ⟨0x3030, .px⟩,
  ⟨0x3031, .lm⟩, ⟨0x3036, .sx⟩, ⟨0x3038, .nl⟩, ⟨0x303b, .lm⟩, ⟨0x303c, .lo⟩, ⟨0x303d, .px⟩,
  ⟨0x303e, .sx⟩, ⟨0x3040, .cx⟩, ⟨0x3041, .lo⟩, ⟨0x3097, .cx⟩, ⟨0x3099, .mn⟩, ⟨0x309b, .sk⟩,
  ⟨0x309d, .lm⟩, ⟨0x309f, .lo⟩, ⟨0x30a0, .px⟩, ⟨0x30a1, .lo⟩, ⟨0x30fb, .px⟩, ⟨0x30fc, .lm⟩,
  ⟨0x30ff, .lo⟩, ⟨0x3100, .cx⟩, ⟨0x3105, .lo⟩, ⟨0x3130, .cx⟩, ⟨0x3131, .lo⟩, ⟨0x318f, .cx⟩,
  ⟨0x3190, .sx⟩, ⟨0x3192, .no⟩, ⟨0x3196, .sx⟩, ⟨0x31a0, .lo⟩, ⟨0x31c0, .sx⟩, ⟨0x31e4, .cx⟩,
  ⟨0x31ef, .sx⟩, ⟨0x31f0, .lo⟩, ⟨0x3200, .sx⟩, ⟨0x321f, .cx⟩, ⟨0x3220, .no⟩, ⟨0x322a, .sx⟩,
  ⟨0x3248, .no⟩, ⟨0x3250, .sx⟩, ⟨0x3251, .no⟩, ⟨0x3260, .sx⟩, ⟨0x3280, .no⟩, ⟨0x328a, .sx⟩,
  ⟨0x32b1, .no⟩, ⟨0x32c0, .sx⟩, ⟨0x3400, .lo⟩, ⟨0x4dc0, .sx⟩, ⟨0x4e00, .lo⟩, ⟨0xa015, .lm⟩,
  ⟨0xa016, .lo⟩, ⟨0xa48d, .cx⟩, ⟨0xa490, .sx⟩, ⟨0xa4c7, .cx⟩, ⟨0xa4d0, .lo⟩, ⟨0xa4f8, .lm⟩]

private def runsE : Array Run := #[
  ⟨0xa4fe, .px⟩, ⟨0xa500, .lo⟩, ⟨0xa60c, .lm⟩, ⟨0xa60d, .px⟩, ⟨0xa610, .lo⟩, ⟨0xa620, .nd⟩,
  ⟨0xa62a, .lo⟩, ⟨0xa62c, .cx⟩, ⟨0xa640, .lc⟩, ⟨0xa66e, .lo⟩, ⟨0xa66f, .mn⟩, ⟨0xa670, .me⟩,
  ⟨0xa673, .px⟩, ⟨0xa674, .mn⟩, ⟨0xa67e, .px⟩, ⟨0xa67f, .lm⟩, ⟨0xa680, .lc⟩, ⟨0xa69c, .lm⟩,
  ⟨0xa69e, .mn⟩, ⟨0xa6a0, .lo⟩, ⟨0xa6e6, .nl⟩, ⟨0xa6f0, .mn⟩, ⟨0xa6f2, .px⟩, ⟨0xa6f8, .cx⟩,
  ⟨0xa700, .sk⟩, ⟨0xa717, .lm⟩, ⟨0xa720, .sk⟩, ⟨0xa722, .lc⟩, ⟨0xa770, .lm⟩, ⟨0xa771, .lc⟩,
  ⟨0xa788, .lm⟩, ⟨0xa789, .sk⟩, ⟨0xa78b, .lc⟩, ⟨0xa78f, .lo⟩, ⟨0xa790, .lc⟩, ⟨0xa7ce, .cx⟩,
  ⟨0xa7d0, .lc⟩, ⟨0xa7d2, .cx⟩, ⟨0xa7d3, .lc⟩, ⟨0xa7d4, .cx⟩, ⟨0xa7d5, .lc⟩, ⟨0xa7dd, .cx⟩,
  ⟨0xa7f2, .lm⟩, ⟨0xa7f5, .lc⟩, ⟨0xa7f7, .lo⟩, ⟨0xa7f8, .lm⟩, ⟨0xa7fa, .lc⟩, ⟨0xa7fb, .lo⟩,
  ⟨0xa802, .mn⟩, ⟨0xa803, .lo⟩, ⟨0xa806, .mn⟩, ⟨0xa807, .lo⟩, ⟨0xa80b, .mn⟩, ⟨0xa80c, .lo⟩,
  ⟨0xa823, .mc⟩, ⟨0xa825, .mn⟩, ⟨0xa827, .mc⟩, ⟨0xa828, .sx⟩, ⟨0xa82c, .mn⟩, ⟨0xa82d, .cx⟩,
  ⟨0xa830, .no⟩, ⟨0xa836, .sx⟩, ⟨0xa83a, .cx⟩, ⟨0xa840, .lo⟩, ⟨0xa874, .px⟩, ⟨0xa878, .cx⟩,
  ⟨0xa880, .mc⟩, ⟨0xa882, .lo⟩, ⟨0xa8b4, .mc⟩, ⟨0xa8c4, .mn⟩, ⟨0xa8c6, .cx⟩, ⟨0xa8ce, .px⟩,
  ⟨0xa8d0, .nd⟩, ⟨0xa8da, .cx⟩, ⟨0xa8e0, .mn⟩, ⟨0xa8f2, .lo⟩, ⟨0xa8f8, .px⟩, ⟨0xa8fb, .lo⟩,
  ⟨0xa8fc, .px⟩, ⟨0xa8fd, .lo⟩, ⟨0xa8ff, .mn⟩, ⟨0xa900, .nd⟩, ⟨0xa90a, .lo⟩, ⟨0xa926, .mn⟩,
  ⟨0xa92e, .px⟩, ⟨0xa930, .lo⟩, ⟨0xa947, .mn⟩, ⟨0xa952, .mc⟩, ⟨0xa954, .cx⟩, ⟨0xa95f, .px⟩,
  ⟨0xa960, .lo⟩, ⟨0xa97d, .cx⟩, ⟨0xa980, .mn⟩, ⟨0xa983, .mc⟩, ⟨0xa984, .lo⟩, ⟨0xa9b3, .mn⟩,
  ⟨0xa9b4, .mc⟩, ⟨0xa9b6, .mn⟩, ⟨0xa9ba, .mc⟩, ⟨0xa9bc, .mn⟩, ⟨0xa9be, .mc⟩, ⟨0xa9c1, .px⟩,
  ⟨0xa9ce, .cx⟩, ⟨0xa9cf, .lm⟩, ⟨0xa9d0, .nd⟩, ⟨0xa9da, .cx⟩, ⟨0xa9de, .px⟩, ⟨0xa9e0, .lo⟩,
  ⟨0xa9e5, .mn⟩, ⟨0xa9e6, .lm⟩, ⟨0xa9e7, .lo⟩, ⟨0xa9f0, .nd⟩, ⟨0xa9fa, .lo⟩, ⟨0xa9ff, .cx⟩,
  ⟨0xaa00, .lo⟩, ⟨0xaa29, .mn⟩, ⟨0xaa2f, .mc⟩, ⟨0xaa31, .mn⟩, ⟨0xaa33, .mc⟩, ⟨0xaa35, .mn⟩,
  ⟨0xaa37, .cx⟩, ⟨0xaa40, .lo⟩, ⟨0xaa43, .mn⟩, ⟨0xaa44, .lo⟩, ⟨0xaa4c, .mn⟩, ⟨0xaa4d, .mc⟩,
  ⟨0xaa4e, .cx⟩, ⟨0xaa50, .nd⟩, ⟨0xaa5a, .cx⟩, ⟨0xaa5c, .px⟩, ⟨0xaa60, .lo⟩, ⟨0xaa70, .lm⟩,
  ⟨0xaa71, .lo⟩, ⟨0xaa77, .sx⟩, ⟨0xaa7a, .lo⟩, ⟨0xaa7b, .mc⟩, ⟨0xaa7c, .mn⟩, ⟨0xaa7d, .mc⟩,
  ⟨0xaa7e, .lo⟩, ⟨0xaab0, .mn⟩, ⟨0xaab1, .lo⟩, ⟨0xaab2, .mn⟩, ⟨0xaab5, .lo⟩, ⟨0xaab7, .mn⟩,
  ⟨0xaab9, .lo⟩, ⟨0xaabe, .mn⟩, ⟨0xaac0, .lo⟩, ⟨0xaac1, .mn⟩, ⟨0xaac2, .lo⟩, ⟨0xaac3, .cx⟩,
  ⟨0xaadb, .lo⟩, ⟨0xaadd, .lm⟩, ⟨0xaade, .px⟩, ⟨0xaae0, .lo⟩, ⟨0xaaeb, .mc⟩, ⟨0xaaec, .mn⟩,
  ⟨0xaaee, .mc⟩, ⟨0xaaf0, .px⟩, ⟨0xaaf2, .lo⟩, ⟨0xaaf3, .lm⟩, ⟨0xaaf5, .mc⟩, ⟨0xaaf6, .mn⟩,
  ⟨0xaaf7, .cx⟩, ⟨0xab01, .lo⟩, ⟨0xab07, .cx⟩, ⟨0xab09, .lo⟩, ⟨0xab0f, .cx⟩, ⟨0xab11, .lo⟩,
  ⟨0xab17, .cx⟩, ⟨0xab20, .lo⟩, ⟨0xab27, .cx⟩, ⟨0xab28, .lo⟩, ⟨0xab2f, .cx⟩, ⟨0xab30, .lc⟩,
  ⟨0xab5b, .sk⟩, ⟨0xab5c, .lm⟩, ⟨0xab60, .lc⟩, ⟨0xab69, .lm⟩, ⟨0xab6a, .sk⟩, ⟨0xab6c, .cx⟩,
  ⟨0xab70, .lc⟩, ⟨0xabc0, .lo⟩, ⟨0xabe3, .mc⟩, ⟨0xabe5, .mn⟩, ⟨0xabe6, .mc⟩, ⟨0xabe8, .mn⟩,
  ⟨0xabe9, .mc⟩, ⟨0xabeb, .px⟩, ⟨0xabec, .mc⟩, ⟨0xabed, .mn⟩, ⟨0xabee, .cx⟩, ⟨0xabf0, .nd⟩,
  ⟨0xabfa, .cx⟩, ⟨0xac00, .lo⟩, ⟨0xd7a4, .cx⟩, ⟨0xd7b0, .lo⟩, ⟨0xd7c7, .cx⟩, ⟨0xd7cb, .lo⟩,
  ⟨0xd7fc, .cx⟩, ⟨0xf900, .lo⟩, ⟨0xfa6e, .cx⟩, ⟨0xfa70, .lo⟩, ⟨0xfada, .cx⟩, ⟨0xfb00, .lc⟩,
  ⟨0xfb07, .cx⟩, ⟨0xfb13, .lc⟩, ⟨0xfb18, .cx⟩, ⟨0xfb1d, .lo⟩, ⟨0xfb1e, .mn⟩, ⟨0xfb1f, .lo⟩,
  ⟨0xfb29, .sx⟩, ⟨0xfb2a, .lo⟩, ⟨0xfb37, .cx⟩, ⟨0xfb38, .lo⟩, ⟨0xfb3d, .cx⟩, ⟨0xfb3e, .lo⟩,
  ⟨0xfb3f, .cx⟩, ⟨0xfb40, .lo⟩, ⟨0xfb42, .cx⟩, ⟨0xfb43, .lo⟩, ⟨0xfb45, .cx⟩, ⟨0xfb46, .lo⟩,
  ⟨0xfbb2, .sk⟩, ⟨0xfbc3, .cx⟩, ⟨0xfbd3, .lo⟩, ⟨0xfd3e, .px⟩, ⟨0xfd40, .sx⟩, ⟨0xfd50, .lo⟩,
  ⟨0xfd90, .cx⟩, ⟨0xfd92, .lo⟩, ⟨0xfdc8, .cx⟩, ⟨0xfdcf, .sx⟩, ⟨0xfdd0, .cx⟩, ⟨0xfdf0, .lo⟩,
  ⟨0xfdfc, .sx⟩, ⟨0xfe00, .mn⟩, ⟨0xfe10, .px⟩, ⟨0xfe1a, .cx⟩, ⟨0xfe20, .mn⟩, ⟨0xfe30, .px⟩,
  ⟨0xfe33, .pc⟩, ⟨0xfe35, .px⟩, ⟨0xfe4d, .pc⟩, ⟨0xfe50, .px⟩, ⟨0xfe53, .cx⟩, ⟨0xfe54, .px⟩,
  ⟨0xfe62, .sx⟩, ⟨0xfe63, .px⟩, ⟨0xfe64, .sx⟩, ⟨0xfe67, .cx⟩, ⟨0xfe68, .px⟩, ⟨0xfe69, .sx⟩,
  ⟨0xfe6a, .px⟩, ⟨0xfe6c, .cx⟩, ⟨0xfe70, .lo⟩, ⟨0xfe75, .cx⟩, ⟨0xfe76, .lo⟩, ⟨0xfefd, .cx⟩,
  ⟨0xfeff, .cf⟩, ⟨0xff00, .cx⟩, ⟨0xff01, .px⟩, ⟨0xff04, .sx⟩, ⟨0xff05, .px⟩, ⟨0xff0b, .sx⟩,
  ⟨0xff0c, .px⟩, ⟨0xff10, .nd⟩, ⟨0xff1a, .px⟩, ⟨0xff1c, .sx⟩, ⟨0xff1f, .px⟩, ⟨0xff21, .lc⟩,
  ⟨0xff3b, .px⟩, ⟨0xff3e, .sk⟩, ⟨0xff3f, .pc⟩, ⟨0xff40, .sk⟩, ⟨0xff41, .lc⟩, ⟨0xff5b, .px⟩,
  ⟨0xff5c, .sx⟩, ⟨0xff5d, .px⟩, ⟨0xff5e, .sx⟩, ⟨0xff5f, .px⟩, ⟨0xff66, .lo⟩, ⟨0xff70, .lm⟩,
  ⟨0xff71, .lo⟩, ⟨0xff9e, .lm⟩, ⟨0xffa0, .lo⟩, ⟨0xffbf, .cx⟩, ⟨0xffc2, .lo⟩, ⟨0xffc8, .cx⟩,
  ⟨0xffca, .lo⟩, ⟨0xffd0, .cx⟩, ⟨0xffd2, .lo⟩, ⟨0xffd8, .cx⟩, ⟨0xffda, .lo⟩, ⟨0xffdd, .cx⟩,
  ⟨0xffe0, .sx⟩, ⟨0xffe3, .sk⟩, ⟨0xffe4, .sx⟩, ⟨0xffe7, .cx⟩, ⟨0xffe8, .sx⟩, ⟨0xffef, .cx⟩]

private def runsF : Array Run := #[
  ⟨0xfff9, .cf⟩, ⟨0xfffc, .sx⟩, ⟨0xfffe, .cx⟩, ⟨0x10000, .lo⟩, ⟨0x1000c, .cx⟩, ⟨0x1000d, .lo⟩,
  ⟨0x10027, .cx⟩, ⟨0x10028, .lo⟩, ⟨0x1003b, .cx⟩, ⟨0x1003c, .lo⟩, ⟨0x1003e, .cx⟩, ⟨0x1003f, .lo⟩,
  ⟨0x1004e, .cx⟩, ⟨0x10050, .lo⟩, ⟨0x1005e, .cx⟩, ⟨0x10080, .lo⟩, ⟨0x100fb, .cx⟩, ⟨0x10100, .px⟩,
  ⟨0x10103, .cx⟩, ⟨0x10107, .no⟩, ⟨0x10134, .cx⟩, ⟨0x10137, .sx⟩, ⟨0x10140, .nl⟩, ⟨0x10175, .no⟩,
  ⟨0x10179, .sx⟩, ⟨0x1018a, .no⟩, ⟨0x1018c, .sx⟩, ⟨0x1018f, .cx⟩, ⟨0x10190, .sx⟩, ⟨0x1019d, .cx⟩,
  ⟨0x101a0, .sx⟩, ⟨0x101a1, .cx⟩, ⟨0x101d0, .sx⟩, ⟨0x101fd, .mn⟩, ⟨0x101fe, .cx⟩, ⟨0x10280, .lo⟩,
  ⟨0x1029d, .cx⟩, ⟨0x102a0, .lo⟩, ⟨0x102d1, .cx⟩, ⟨0x102e0, .mn⟩, ⟨0x102e1, .no⟩, ⟨0x102fc, .cx⟩,
  ⟨0x10300, .lo⟩, ⟨0x10320, .no⟩, ⟨0x10324, .cx⟩, ⟨0x1032d, .lo⟩, ⟨0x10341, .nl⟩, ⟨0x10342, .lo⟩,
  ⟨0x1034a, .nl⟩, ⟨0x1034b, .cx⟩, ⟨0x10350, .lo⟩, ⟨0x10376, .mn⟩, ⟨0x1037b, .cx⟩, ⟨0x10380, .lo⟩,
  ⟨0x1039e, .cx⟩, ⟨0x1039f, .px⟩, ⟨0x103a0, .lo⟩, ⟨0x103c4, .cx⟩, ⟨0x103c8, .lo⟩, ⟨0x103d0, .px⟩,
  ⟨0x103d1, .nl⟩, ⟨0x103d6, .cx⟩, ⟨0x10400, .lc⟩, ⟨0x10450, .lo⟩, ⟨0x1049e, .cx⟩, ⟨0x104a0, .nd⟩,
  ⟨0x104aa, .cx⟩, ⟨0x104b0, .lc⟩, ⟨0x104d4, .cx⟩, ⟨0x104d8, .lc⟩, ⟨0x104fc, .cx⟩, ⟨0x10500, .lo⟩,
  ⟨0x10528, .cx⟩, ⟨0x10530, .lo⟩, ⟨0x10564, .cx⟩, ⟨0x1056f, .px⟩, ⟨0x10570, .lc⟩, ⟨0x1057b, .cx⟩,
  ⟨0x1057c, .lc⟩, ⟨0x1058b, .cx⟩, ⟨0x1058c, .lc⟩, ⟨0x10593, .cx⟩, ⟨0x10594, .lc⟩, ⟨0x10596, .cx⟩,
  ⟨0x10597, .lc⟩, ⟨0x105a2, .cx⟩, ⟨0x105a3, .lc⟩, ⟨0x105b2, .cx⟩, ⟨0x105b3, .lc⟩, ⟨0x105ba, .cx⟩,
  ⟨0x105bb, .lc⟩, ⟨0x105bd, .cx⟩, ⟨0x105c0, .lo⟩, ⟨0x105f4, .cx⟩, ⟨0x10600, .lo⟩, ⟨0x10737, .cx⟩,
  ⟨0x10740, .lo⟩, ⟨0x10756, .cx⟩, ⟨0x10760, .lo⟩, ⟨0x10768, .cx⟩, ⟨0x10780, .lm⟩, ⟨0x10786, .cx⟩,
  ⟨0x10787, .lm⟩, ⟨0x107b1, .cx⟩, ⟨0x107b2, .lm⟩, ⟨0x107bb, .cx⟩, ⟨0x10800, .lo⟩, ⟨0x10806, .cx⟩,
  ⟨0x10808, .lo⟩, ⟨0x10809, .cx⟩, ⟨0x1080a, .lo⟩, ⟨0x10836, .cx⟩, ⟨0x10837, .lo⟩, ⟨0x10839, .cx⟩,
  ⟨0x1083c, .lo⟩, ⟨0x1083d, .cx⟩, ⟨0x1083f, .lo⟩, ⟨0x10856, .cx⟩, ⟨0x10857, .px⟩, ⟨0x10858, .no⟩,
  ⟨0x10860, .lo⟩, ⟨0x10877, .sx⟩, ⟨0x10879, .no⟩, ⟨0x10880, .lo⟩, ⟨0x1089f, .cx⟩, ⟨0x108a7, .no⟩,
  ⟨0x108b0, .cx⟩, ⟨0x108e0, .lo⟩, ⟨0x108f3, .cx⟩, ⟨0x108f4, .lo⟩, ⟨0x108f6, .cx⟩, ⟨0x108fb, .no⟩,
  ⟨0x10900, .lo⟩, ⟨0x10916, .no⟩, ⟨0x1091c, .cx⟩, ⟨0x1091f, .px⟩, ⟨0x10920, .lo⟩, ⟨0x1093a, .cx⟩,
  ⟨0x1093f, .px⟩, ⟨0x10940, .cx⟩, ⟨0x10980, .lo⟩, ⟨0x109b8, .cx⟩, ⟨0x109bc, .no⟩, ⟨0x109be, .lo⟩,
  ⟨0x109c0, .no⟩, ⟨0x109d0, .cx⟩, ⟨0x109d2, .no⟩, ⟨0x10a00, .lo⟩, ⟨0x10a01, .mn⟩, ⟨0x10a04, .cx⟩,
  ⟨0x10a05, .mn⟩, ⟨0x10a07, .cx⟩, ⟨0x10a0c, .mn⟩, ⟨0x10a10, .lo⟩, ⟨0x10a14, .cx⟩, ⟨0x10a15, .lo⟩,
  ⟨0x10a18, .cx⟩, ⟨0x10a19, .lo⟩, ⟨0x10a36, .cx⟩, ⟨0x10a38, .mn⟩, ⟨0x10a3b, .cx⟩, ⟨0x10a3f, .mn⟩,
  ⟨0x10a40, .no⟩, ⟨0x10a49, .cx⟩, ⟨0x10a50, .px⟩, ⟨0x10a59, .cx⟩, ⟨0x10a60, .lo⟩, ⟨0x10a7d, .no⟩,
  ⟨0x10a7f, .px⟩, ⟨0x10a80, .lo⟩, ⟨0x10a9d, .no⟩, ⟨0x10aa0, .cx⟩, ⟨0x10ac0, .lo⟩, ⟨0x10ac8, .sx⟩,
  ⟨0x10ac9, .lo⟩, ⟨0x10ae5, .mn⟩, ⟨0x10ae7, .cx⟩, ⟨0x10aeb, .no⟩, ⟨0x10af0, .px⟩, ⟨0x10af7, .cx⟩,
  ⟨0x10b00, .lo⟩, ⟨0x10b36, .cx⟩, ⟨0x10b39, .px⟩, ⟨0x10b40, .lo⟩, ⟨0x10b56, .cx⟩, ⟨0x10b58, .no⟩,
  ⟨0x10b60, .lo⟩, ⟨0x10b73, .cx⟩, ⟨0x10b78, .no⟩, ⟨0x10b80, .lo⟩, ⟨0x10b92, .cx⟩, ⟨0x10b99, .px⟩,
  ⟨0x10b9d, .cx⟩, ⟨0x10ba9, .no⟩, ⟨0x10bb0, .cx⟩, ⟨0x10c00, .lo⟩, ⟨0x10c49, .cx⟩, ⟨0x10c80, .lc⟩,
  ⟨0x10cb3, .cx⟩, ⟨0x10cc0, .lc⟩, ⟨0x10cf3, .cx⟩, ⟨0x10cfa, .no⟩, ⟨0x10d00, .lo⟩, ⟨0x10d24, .mn⟩,
  ⟨0x10d28, .cx⟩, ⟨0x10d30, .nd⟩, ⟨0x10d3a, .cx⟩, ⟨0x10d40, .nd⟩, ⟨0x10d4a, .lo⟩, ⟨0x10d4e, .lm⟩,
  ⟨0x10d4f, .lo⟩, ⟨0x10d50, .lc⟩, ⟨0x10d66, .cx⟩, ⟨0x10d69, .mn⟩, ⟨0x10d6e, .px⟩, ⟨0x10d6f, .lm⟩,
  ⟨0x10d70, .lc⟩, ⟨0x10d86, .cx⟩, ⟨0x10e60, .no⟩, ⟨0x10e7f, .cx⟩, ⟨0x10e80, .lo⟩, ⟨0x10eaa, .cx⟩,
  ⟨0x10eab, .mn⟩, ⟨0x10ead, .px⟩, ⟨0x10eae, .cx⟩, ⟨0x10eb0, .lo⟩, ⟨0x10eb2, .cx⟩, ⟨0x10efd, .mn⟩,
  ⟨0x10f00, .lo⟩, ⟨0x10f1d, .no⟩, ⟨0x10f27, .lo⟩, ⟨0x10f28, .cx⟩, ⟨0x10f30, .lo⟩, ⟨0x10f46, .mn⟩,
  ⟨0x10f51, .no⟩, ⟨0x10f55, .px⟩, ⟨0x10f5a, .cx⟩, ⟨0x10f70, .lo⟩, ⟨0x10f82, .mn⟩, ⟨0x10f86, .px⟩,
  ⟨0x10f8a, .cx⟩, ⟨0x10fb0, .lo⟩, ⟨0x10fc5, .no⟩, ⟨0x10fcc, .cx⟩, ⟨0x10fe0, .lo⟩, ⟨0x10ff7, .cx⟩,
  ⟨0x11000, .mc⟩, ⟨0x11001, .mn⟩, ⟨0x11002, .mc⟩, ⟨0x11003, .lo⟩, ⟨0x11038, .mn⟩, ⟨0x11047, .px⟩,
  ⟨0x1104e, .cx⟩, ⟨0x11052, .no⟩, ⟨0x11066, .nd⟩, ⟨0x11070, .mn⟩, ⟨0x11071, .lo⟩, ⟨0x11073, .mn⟩,
  ⟨0x11075, .lo⟩, ⟨0x11076, .cx⟩, ⟨0x1107f, .mn⟩, ⟨0x11082, .mc⟩, ⟨0x11083, .lo⟩, ⟨0x110b0, .mc⟩,
  ⟨0x110b3, .mn⟩, ⟨0x110b7, .mc⟩, ⟨0x110b9, .mn⟩, ⟨0x110bb, .px⟩, ⟨0x110bd, .cf⟩, ⟨0x110be, .px⟩,
  ⟨0x110c2, .mn⟩, ⟨0x110c3, .cx⟩, ⟨0x110cd, .cf⟩, ⟨0x110ce, .cx⟩, ⟨0x110d0, .lo⟩, ⟨0x110e9, .cx⟩,
  ⟨0x110f0, .nd⟩, ⟨0x110fa, .cx⟩, ⟨0x11100, .mn⟩, ⟨0x11103, .lo⟩, ⟨0x11127, .mn⟩, ⟨0x1112c, .mc⟩,
  ⟨0x1112d, .mn⟩, ⟨0x11135, .cx⟩, ⟨0x11136, .nd⟩, ⟨0x11140, .px⟩, ⟨0x11144, .lo⟩, ⟨0x11145, .mc⟩,
  ⟨0x11147, .lo⟩, ⟨0x11148, .cx⟩, ⟨0x11150, .lo⟩, ⟨0x11173, .mn⟩, ⟨0x11174, .px⟩, ⟨0x11176, .lo⟩,
  ⟨0x11177, .cx⟩, ⟨0x11180, .mn⟩, ⟨0x11182, .mc⟩, ⟨0x11183, .lo⟩, ⟨0x111b3, .mc⟩, ⟨0x111b6, .mn⟩]

private def runsG : Array Run := #[
  ⟨0x111bf, .mc⟩, ⟨0x111c1, .lo⟩, ⟨0x111c5, .px⟩, ⟨0x111c9, .mn⟩, ⟨0x111cd, .px⟩, ⟨0x111ce, .mc⟩,
  ⟨0x111cf, .mn⟩, ⟨0x111d0, .nd⟩, ⟨0x111da, .lo⟩, ⟨0x111db, .px⟩, ⟨0x111dc, .lo⟩, ⟨0x111dd, .px⟩,
  ⟨0x111e0, .cx⟩, ⟨0x111e1, .no⟩, ⟨0x111f5, .cx⟩, ⟨0x11200, .lo⟩, ⟨0x11212, .cx⟩, ⟨0x11213, .lo⟩,
  ⟨0x1122c, .mc⟩, ⟨0x1122f, .mn⟩, ⟨0x11232, .mc⟩, ⟨0x11234, .mn⟩, ⟨0x11235, .mc⟩, ⟨0x11236, .mn⟩,
  ⟨0x11238, .px⟩, ⟨0x1123e, .mn⟩, ⟨0x1123f, .lo⟩, ⟨0x11241, .mn⟩, ⟨0x11242, .cx⟩, ⟨0x11280, .lo⟩,
  ⟨0x11287, .cx⟩, ⟨0x11288, .lo⟩, ⟨0x11289, .cx⟩, ⟨0x1128a, .lo⟩, ⟨0x1128e, .cx⟩, ⟨0x1128f, .lo⟩,
  ⟨0x1129e, .cx⟩, ⟨0x1129f, .lo⟩, ⟨0x112a9, .px⟩, ⟨0x112aa, .cx⟩, ⟨0x112b0, .lo⟩, ⟨0x112df, .mn⟩,
  ⟨0x112e0, .mc⟩, ⟨0x112e3, .mn⟩, ⟨0x112eb, .cx⟩, ⟨0x112f0, .nd⟩, ⟨0x112fa, .cx⟩, ⟨0x11300, .mn⟩,
  ⟨0x11302, .mc⟩, ⟨0x11304, .cx⟩, ⟨0x11305, .lo⟩, ⟨0x1130d, .cx⟩, ⟨0x1130f, .lo⟩, ⟨0x11311, .cx⟩,
  ⟨0x11313, .lo⟩, ⟨0x11329, .cx⟩, ⟨0x1132a, .lo⟩, ⟨0x11331, .cx⟩, ⟨0x11332, .lo⟩, ⟨0x11334, .cx⟩,
  ⟨0x11335, .lo⟩, ⟨0x1133a, .cx⟩, ⟨0x1133b, .mn⟩, ⟨0x1133d, .lo⟩, ⟨0x1133e, .mc⟩, ⟨0x11340, .mn⟩,
  ⟨0x11341, .mc⟩, ⟨0x11345, .cx⟩, ⟨0x11347, .mc⟩, ⟨0x11349, .cx⟩, ⟨0x1134b, .mc⟩, ⟨0x1134e, .cx⟩,
  ⟨0x11350, .lo⟩, ⟨0x11351, .cx⟩, ⟨0x11357, .mc⟩, ⟨0x11358, .cx⟩, ⟨0x1135d, .lo⟩, ⟨0x11362, .mc⟩,
  ⟨0x11364, .cx⟩, ⟨0x11366, .mn⟩, ⟨0x1136d, .cx⟩, ⟨0x11370, .mn⟩, ⟨0x11375, .cx⟩, ⟨0x11400, .lo⟩,
  ⟨0x11435, .mc⟩, ⟨0x11438, .mn⟩, ⟨0x11440, .mc⟩, ⟨0x11442, .mn⟩, ⟨0x11445, .mc⟩, ⟨0x11446, .mn⟩,
  ⟨0x11447, .lo⟩, ⟨0x1144b, .px⟩, ⟨0x11450, .nd⟩, ⟨0x1145a, .px⟩, ⟨0x1145c, .cx⟩, ⟨0x1145d, .px⟩,
  ⟨0x1145e, .mn⟩, ⟨0x1145f, .lo⟩, ⟨0x11462, .cx⟩, ⟨0x11480, .lo⟩, ⟨0x114b0, .mc⟩, ⟨0x114b3, .mn⟩,
  ⟨0x114b9, .mc⟩, ⟨0x114ba, .mn⟩, ⟨0x114bb, .mc⟩, ⟨0x114bf, .mn⟩, ⟨0x114c1, .mc⟩, ⟨0x114c2, .mn⟩,
  ⟨0x114c4, .lo⟩, ⟨0x114c6, .px⟩, ⟨0x114c7, .lo⟩, ⟨0x114c8, .cx⟩, ⟨0x114d0, .nd⟩, ⟨0x114da, .cx⟩,
  ⟨0x11580, .lo⟩, ⟨0x115af, .mc⟩, ⟨0x115b2, .mn⟩, ⟨0x115b6, .cx⟩, ⟨0x115b8, .mc⟩, ⟨0x115bc, .mn⟩,
  ⟨0x115be, .mc⟩, ⟨0x115bf, .mn⟩, ⟨0x115c1, .px⟩, ⟨0x115d8, .lo⟩, ⟨0x115dc, .mn⟩, ⟨0x115de, .cx⟩,
  ⟨0x11600, .lo⟩, ⟨0x11630, .mc⟩, ⟨0x11633, .mn⟩, ⟨0x1163b, .mc⟩, ⟨0x1163d, .mn⟩, ⟨0x1163e, .mc⟩,
  ⟨0x1163f, .mn⟩, ⟨0x11641, .px⟩, ⟨0x11644, .lo⟩, ⟨0x11645, .cx⟩, ⟨0x11650, .nd⟩, ⟨0x1165a, .cx⟩,
  ⟨0x11660, .px⟩, ⟨0x1166d, .cx⟩, ⟨0x11680, .lo⟩, ⟨0x116ab, .mn⟩, ⟨0x116ac, .mc⟩, ⟨0x116ad, .mn⟩,
  ⟨0x116ae, .mc⟩, ⟨0x116b0, .mn⟩, ⟨0x116b6, .mc⟩, ⟨0x116b7, .mn⟩, ⟨0x116b8, .lo⟩, ⟨0x116b9, .px⟩,
  ⟨0x116ba, .cx⟩, ⟨0x116c0, .nd⟩, ⟨0x116ca, .cx⟩, ⟨0x11700, .lo⟩, ⟨0x1171b, .cx⟩, ⟨0x1171d, .mn⟩,
  ⟨0x11720, .mc⟩, ⟨0x11722, .mn⟩, ⟨0x11726, .mc⟩, ⟨0x11727, .mn⟩, ⟨0x1172c, .cx⟩, ⟨0x11730, .nd⟩,
  ⟨0x1173a, .no⟩, ⟨0x1173c, .px⟩, ⟨0x1173f, .sx⟩, ⟨0x11740, .lo⟩, ⟨0x11747, .cx⟩, ⟨0x11800, .lo⟩,
  ⟨0x1182c, .mc⟩, ⟨0x1182f, .mn⟩, ⟨0x11838, .mc⟩, ⟨0x11839, .mn⟩, ⟨0x1183b, .px⟩, ⟨0x1183c, .cx⟩,
  ⟨0x118a0, .lc⟩, ⟨0x118e0, .nd⟩, ⟨0x118ea, .no⟩, ⟨0x118f3, .cx⟩, ⟨0x118ff, .lo⟩, ⟨0x11907, .cx⟩,
  ⟨0x11909, .lo⟩, ⟨0x1190a, .cx⟩, ⟨0x1190c, .lo⟩, ⟨0x11914, .cx⟩, ⟨0x11915, .lo⟩, ⟨0x11917, .cx⟩,
  ⟨0x11918, .lo⟩, ⟨0x11930, .mc⟩, ⟨0x11936, .cx⟩, ⟨0x11937, .mc⟩, ⟨0x11939, .cx⟩, ⟨0x1193b, .mn⟩,
  ⟨0x1193d, .mc⟩, ⟨0x1193e, .mn⟩, ⟨0x1193f, .lo⟩, ⟨0x11940, .mc⟩, ⟨0x11941, .lo⟩, ⟨0x11942, .mc⟩,
  ⟨0x11943, .mn⟩, ⟨0x11944, .px⟩, ⟨0x11947, .cx⟩, ⟨0x11950, .nd⟩, ⟨0x1195a, .cx⟩, ⟨0x119a0, .lo⟩,
  ⟨0x119a8, .cx⟩, ⟨0x119aa, .lo⟩, ⟨0x119d1, .mc⟩, ⟨0x119d4, .mn⟩, ⟨0x119d8, .cx⟩, ⟨0x119da, .mn⟩,
  ⟨0x119dc, .mc⟩, ⟨0x119e0, .mn⟩, ⟨0x119e1, .lo⟩, ⟨0x119e2, .px⟩, ⟨0x119e3, .lo⟩, ⟨0x119e4, .mc⟩,
  ⟨0x119e5, .cx⟩, ⟨0x11a00, .lo⟩, ⟨0x11a01, .mn⟩, ⟨0x11a0b, .lo⟩, ⟨0x11a33, .mn⟩, ⟨0x11a39, .mc⟩,
  ⟨0x11a3a, .lo⟩, ⟨0x11a3b, .mn⟩, ⟨0x11a3f, .px⟩, ⟨0x11a47, .mn⟩, ⟨0x11a48, .cx⟩, ⟨0x11a50, .lo⟩,
  ⟨0x11a51, .mn⟩, ⟨0x11a57, .mc⟩, ⟨0x11a59, .mn⟩, ⟨0x11a5c, .lo⟩, ⟨0x11a8a, .mn⟩, ⟨0x11a97, .mc⟩,
  ⟨0x11a98, .mn⟩, ⟨0x11a9a, .px⟩, ⟨0x11a9d, .lo⟩, ⟨0x11a9e, .px⟩, ⟨0x11aa3, .cx⟩, ⟨0x11ab0, .lo⟩,
  ⟨0x11af9, .cx⟩, ⟨0x11b00, .px⟩, ⟨0x11b0a, .cx⟩, ⟨0x11c00, .lo⟩, ⟨0x11c09, .cx⟩, ⟨0x11c0a, .lo⟩,
  ⟨0x11c2f, .mc⟩, ⟨0x11c30, .mn⟩, ⟨0x11c37, .cx⟩, ⟨0x11c38, .mn⟩, ⟨0x11c3e, .mc⟩, ⟨0x11c3f, .mn⟩,
  ⟨0x11c40, .lo⟩, ⟨0x11c41, .px⟩, ⟨0x11c46, .cx⟩, ⟨0x11c50, .nd⟩, ⟨0x11c5a, .no⟩, ⟨0x11c6d, .cx⟩,
  ⟨0x11c70, .px⟩, ⟨0x11c72, .lo⟩, ⟨0x11c90, .cx⟩, ⟨0x11c92, .mn⟩, ⟨0x11ca8, .cx⟩, ⟨0x11ca9, .mc⟩,
  ⟨0x11caa, .mn⟩, ⟨0x11cb1, .mc⟩, ⟨0x11cb2, .mn⟩, ⟨0x11cb4, .mc⟩, ⟨0x11cb5, .mn⟩, ⟨0x11cb7, .cx⟩,
  ⟨0x11d00, .lo⟩, ⟨0x11d07, .cx⟩, ⟨0x11d08, .lo⟩, ⟨0x11d0a, .cx⟩, ⟨0x11d0b, .lo⟩, ⟨0x11d31, .mn⟩,
  ⟨0x11d37, .cx⟩, ⟨0x11d3a, .mn⟩, ⟨0x11d3b, .cx⟩, ⟨0x11d3c, .mn⟩, ⟨0x11d3e, .cx⟩, ⟨0x11d3f, .mn⟩,
  ⟨0x11d46, .lo⟩, ⟨0x11d47, .mn⟩, ⟨0x11d48, .cx⟩, ⟨0x11d50, .nd⟩, ⟨0x11d5a, .cx⟩, ⟨0x11d60, .lo⟩,
  ⟨0x11d66, .cx⟩, ⟨0x11d67, .lo⟩, ⟨0x11d69, .cx⟩, ⟨0x11d6a, .lo⟩, ⟨0x11d8a, .mc⟩, ⟨0x11d8f, .cx⟩,
  ⟨0x11d90, .mn⟩, ⟨0x11d92, .cx⟩, ⟨0x11d93, .mc⟩, ⟨0x11d95, .mn⟩, ⟨0x11d96, .mc⟩, ⟨0x11d97, .mn⟩]

private def runsH : Array Run := #[
  ⟨0x11d98, .lo⟩, ⟨0x11d99, .cx⟩, ⟨0x11da0, .nd⟩, ⟨0x11daa, .cx⟩, ⟨0x11ee0, .lo⟩, ⟨0x11ef3, .mn⟩,
  ⟨0x11ef5, .mc⟩, ⟨0x11ef7, .px⟩, ⟨0x11ef9, .cx⟩, ⟨0x11f00, .mn⟩, ⟨0x11f02, .lo⟩, ⟨0x11f03, .mc⟩,
  ⟨0x11f04, .lo⟩, ⟨0x11f11, .cx⟩, ⟨0x11f12, .lo⟩, ⟨0x11f34, .mc⟩, ⟨0x11f36, .mn⟩, ⟨0x11f3b, .cx⟩,
  ⟨0x11f3e, .mc⟩, ⟨0x11f40, .mn⟩, ⟨0x11f41, .mc⟩, ⟨0x11f42, .mn⟩, ⟨0x11f43, .px⟩, ⟨0x11f50, .nd⟩,
  ⟨0x11f5a, .cx⟩, ⟨0x11fb0, .lo⟩, ⟨0x11fb1, .cx⟩, ⟨0x11fc0, .no⟩, ⟨0x11fd5, .sx⟩, ⟨0x11ff2, .cx⟩,
  ⟨0x11fff, .px⟩, ⟨0x12000, .lo⟩, ⟨0x1239a, .cx⟩, ⟨0x12400, .nl⟩, ⟨0x1246f, .cx⟩, ⟨0x12470, .px⟩,
  ⟨0x12475, .cx⟩, ⟨0x12480, .lo⟩, ⟨0x12544, .cx⟩, ⟨0x12f90, .lo⟩, ⟨0x12ff1, .px⟩, ⟨0x12ff3, .cx⟩,
  ⟨0x13000, .lo⟩, ⟨0x13430, .cf⟩, ⟨0x13440, .mn⟩, ⟨0x13441, .lo⟩, ⟨0x13447, .mn⟩, ⟨0x13456, .cx⟩,
  ⟨0x13460, .lo⟩, ⟨0x143fb, .cx⟩, ⟨0x14400, .lo⟩, ⟨0x14647, .cx⟩, ⟨0x16800, .lo⟩, ⟨0x16a39, .cx⟩,
  ⟨0x16a40, .lo⟩, ⟨0x16a5f, .cx⟩, ⟨0x16a60, .nd⟩, ⟨0x16a6a, .cx⟩, ⟨0x16a6e, .px⟩, ⟨0x16a70, .lo⟩,
  ⟨0x16abf, .cx⟩, ⟨0x16ac0, .nd⟩, ⟨0x16aca, .cx⟩, ⟨0x16ad0, .lo⟩, ⟨0x16aee, .cx⟩, ⟨0x16af0, .mn⟩,
  ⟨0x16af5, .px⟩, ⟨0x16af6, .cx⟩, ⟨0x16b00, .lo⟩, ⟨0x16b30, .mn⟩, ⟨0x16b37, .px⟩, ⟨0x16b3c, .sx⟩,
  ⟨0x16b40, .lm⟩, ⟨0x16b44, .px⟩, ⟨0x16b45, .sx⟩, ⟨0x16b46, .cx⟩, ⟨0x16b50, .nd⟩, ⟨0x16b5a, .cx⟩,
  ⟨0x16b5b, .no⟩, ⟨0x16b62, .cx⟩, ⟨0x16b63, .lo⟩, ⟨0x16b78, .cx⟩, ⟨0x16b7d, .lo⟩, ⟨0x16b90, .cx⟩,
  ⟨0x16e40, .lc⟩, ⟨0x16e80, .no⟩, ⟨0x16e97, .px⟩, ⟨0x16e9b, .cx⟩, ⟨0x16f00, .lo⟩, ⟨0x16f4b, .cx⟩,
  ⟨0x16f4f, .mn⟩, ⟨0x16f50, .lo⟩, ⟨0x16f51, .mc⟩, ⟨0x16f88, .cx⟩, ⟨0x16f8f, .mn⟩, ⟨0x16f93, .lm⟩,
  ⟨0x16fa0, .cx⟩, ⟨0x16fe0, .lm⟩, ⟨0x16fe2, .px⟩, ⟨0x16fe3, .lm⟩, ⟨0x16fe4, .mn⟩, ⟨0x16fe5, .cx⟩,
  ⟨0x16ff0, .mc⟩, ⟨0x16ff2, .cx⟩, ⟨0x17000, .lo⟩, ⟨0x187f8, .cx⟩, ⟨0x18800, .lo⟩, ⟨0x18cd6, .cx⟩,
  ⟨0x18cff, .lo⟩, ⟨0x18d09, .cx⟩, ⟨0x1aff0, .lm⟩, ⟨0x1aff4, .cx⟩, ⟨0x1aff5, .lm⟩, ⟨0x1affc, .cx⟩,
  ⟨0x1affd, .lm⟩, ⟨0x1afff, .cx⟩, ⟨0x1b000, .lo⟩, ⟨0x1b123, .cx⟩, ⟨0x1b132, .lo⟩, ⟨0x1b133, .cx⟩,
  ⟨0x1b150, .lo⟩, ⟨0x1b153, .cx⟩, ⟨0x1b155, .lo⟩, ⟨0x1b156, .cx⟩, ⟨0x1b164, .lo⟩, ⟨0x1b168, .cx⟩,
  ⟨0x1b170, .lo⟩, ⟨0x1b2fc, .cx⟩, ⟨0x1bc00, .lo⟩, ⟨0x1bc6b, .cx⟩, ⟨0x1bc70, .lo⟩, ⟨0x1bc7d, .cx⟩,
  ⟨0x1bc80, .lo⟩, ⟨0x1bc89, .cx⟩, ⟨0x1bc90, .lo⟩, ⟨0x1bc9a, .cx⟩, ⟨0x1bc9c, .sx⟩, ⟨0x1bc9d, .mn⟩,
  ⟨0x1bc9f, .px⟩, ⟨0x1bca0, .cf⟩, ⟨0x1bca4, .cx⟩, ⟨0x1cc00, .sx⟩, ⟨0x1ccf0, .nd⟩, ⟨0x1ccfa, .cx⟩,
  ⟨0x1cd00, .sx⟩, ⟨0x1ceb4, .cx⟩, ⟨0x1cf00, .mn⟩, ⟨0x1cf2e, .cx⟩, ⟨0x1cf30, .mn⟩, ⟨0x1cf47, .cx⟩,
  ⟨0x1cf50, .sx⟩, ⟨0x1cfc4, .cx⟩, ⟨0x1d000, .sx⟩, ⟨0x1d0f6, .cx⟩, ⟨0x1d100, .sx⟩, ⟨0x1d127, .cx⟩,
  ⟨0x1d129, .sx⟩, ⟨0x1d165, .mc⟩, ⟨0x1d167, .mn⟩, ⟨0x1d16a, .sx⟩, ⟨0x1d16d, .mc⟩, ⟨0x1d173, .cf⟩,
  ⟨0x1d17b, .mn⟩, ⟨0x1d183, .sx⟩, ⟨0x1d185, .mn⟩, ⟨0x1d18c, .sx⟩, ⟨0x1d1aa, .mn⟩, ⟨0x1d1ae, .sx⟩,
  ⟨0x1d1eb, .cx⟩, ⟨0x1d200, .sx⟩, ⟨0x1d242, .mn⟩, ⟨0x1d245, .sx⟩, ⟨0x1d246, .cx⟩, ⟨0x1d2c0, .no⟩,
  ⟨0x1d2d4, .cx⟩, ⟨0x1d2e0, .no⟩, ⟨0x1d2f4, .cx⟩, ⟨0x1d300, .sx⟩, ⟨0x1d357, .cx⟩, ⟨0x1d360, .no⟩,
  ⟨0x1d379, .cx⟩, ⟨0x1d400, .lc⟩, ⟨0x1d455, .cx⟩, ⟨0x1d456, .lc⟩, ⟨0x1d49d, .cx⟩, ⟨0x1d49e, .lc⟩,
  ⟨0x1d4a0, .cx⟩, ⟨0x1d4a2, .lc⟩, ⟨0x1d4a3, .cx⟩, ⟨0x1d4a5, .lc⟩, ⟨0x1d4a7, .cx⟩, ⟨0x1d4a9, .lc⟩,
  ⟨0x1d4ad, .cx⟩, ⟨0x1d4ae, .lc⟩, ⟨0x1d4ba, .cx⟩, ⟨0x1d4bb, .lc⟩, ⟨0x1d4bc, .cx⟩, ⟨0x1d4bd, .lc⟩,
  ⟨0x1d4c4, .cx⟩, ⟨0x1d4c5, .lc⟩, ⟨0x1d506, .cx⟩, ⟨0x1d507, .lc⟩, ⟨0x1d50b, .cx⟩, ⟨0x1d50d, .lc⟩,
  ⟨0x1d515, .cx⟩, ⟨0x1d516, .lc⟩, ⟨0x1d51d, .cx⟩, ⟨0x1d51e, .lc⟩, ⟨0x1d53a, .cx⟩, ⟨0x1d53b, .lc⟩,
  ⟨0x1d53f, .cx⟩, ⟨0x1d540, .lc⟩, ⟨0x1d545, .cx⟩, ⟨0x1d546, .lc⟩, ⟨0x1d547, .cx⟩, ⟨0x1d54a, .lc⟩,
  ⟨0x1d551, .cx⟩, ⟨0x1d552, .lc⟩, ⟨0x1d6a6, .cx⟩, ⟨0x1d6a8, .lc⟩, ⟨0x1d6c1, .sx⟩, ⟨0x1d6c2, .lc⟩,
  ⟨0x1d6db, .sx⟩, ⟨0x1d6dc, .lc⟩, ⟨0x1d6fb, .sx⟩, ⟨0x1d6fc, .lc⟩, ⟨0x1d715, .sx⟩, ⟨0x1d716, .lc⟩,
  ⟨0x1d735, .sx⟩, ⟨0x1d736, .lc⟩, ⟨0x1d74f, .sx⟩, ⟨0x1d750, .lc⟩, ⟨0x1d76f, .sx⟩, ⟨0x1d770, .lc⟩,
  ⟨0x1d789, .sx⟩, ⟨0x1d78a, .lc⟩, ⟨0x1d7a9, .sx⟩, ⟨0x1d7aa, .lc⟩, ⟨0x1d7c3, .sx⟩, ⟨0x1d7c4, .lc⟩,
  ⟨0x1d7cc, .cx⟩, ⟨0x1d7ce, .nd⟩, ⟨0x1d800, .sx⟩, ⟨0x1da00, .mn⟩, ⟨0x1da37, .sx⟩, ⟨0x1da3b, .mn⟩,
  ⟨0x1da6d, .sx⟩, ⟨0x1da75, .mn⟩, ⟨0x1da76, .sx⟩, ⟨0x1da84, .mn⟩, ⟨0x1da85, .sx⟩, ⟨0x1da87, .px⟩,
  ⟨0x1da8c, .cx⟩, ⟨0x1da9b, .mn⟩, ⟨0x1daa0, .cx⟩, ⟨0x1daa1, .mn⟩, ⟨0x1dab0, .cx⟩, ⟨0x1df00, .lc⟩,
  ⟨0x1df0a, .lo⟩, ⟨0x1df0b, .lc⟩, ⟨0x1df1f, .cx⟩, ⟨0x1df25, .lc⟩, ⟨0x1df2b, .cx⟩, ⟨0x1e000, .mn⟩,
  ⟨0x1e007, .cx⟩, ⟨0x1e008, .mn⟩, ⟨0x1e019, .cx⟩, ⟨0x1e01b, .mn⟩, ⟨0x1e022, .cx⟩, ⟨0x1e023, .mn⟩,
  ⟨0x1e025, .cx⟩, ⟨0x1e026, .mn⟩, ⟨0x1e02b, .cx⟩, ⟨0x1e030, .lm⟩, ⟨0x1e06e, .cx⟩, ⟨0x1e08f, .mn⟩,
  ⟨0x1e090, .cx⟩, ⟨0x1e100, .lo⟩, ⟨0x1e12d, .cx⟩, ⟨0x1e130, .mn⟩, ⟨0x1e137, .lm⟩, ⟨0x1e13e, .cx⟩,
  ⟨0x1e140, .nd⟩, ⟨0x1e14a, .cx⟩, ⟨0x1e14e, .lo⟩, ⟨0x1e14f, .sx⟩, ⟨0x1e150, .cx⟩, ⟨0x1e290, .lo⟩,
  ⟨0x1e2ae, .mn⟩, ⟨0x1e2af, .cx⟩, ⟨0x1e2c0, .lo⟩, ⟨0x1e2ec, .mn⟩, ⟨0x1e2f0, .nd⟩, ⟨0x1e2fa, .cx⟩,
  ⟨0x1e2ff, .sx⟩, ⟨0x1e300, .cx⟩, ⟨0x1e4d0, .lo⟩, ⟨0x1e4eb, .lm⟩, ⟨0x1e4ec, .mn⟩, ⟨0x1e4f0, .nd⟩]

private def runsI : Array Run := #[
  ⟨0x1e4fa, .cx⟩, ⟨0x1e7e0, .lo⟩, ⟨0x1e7e7, .cx⟩, ⟨0x1e7e8, .lo⟩, ⟨0x1e7ec, .cx⟩, ⟨0x1e7ed, .lo⟩,
  ⟨0x1e7ef, .cx⟩, ⟨0x1e7f0, .lo⟩, ⟨0x1e7ff, .cx⟩, ⟨0x1e800, .lo⟩, ⟨0x1e8c5, .cx⟩, ⟨0x1e8c7, .no⟩,
  ⟨0x1e8d0, .mn⟩, ⟨0x1e8d7, .cx⟩, ⟨0x1e900, .lc⟩, ⟨0x1e944, .mn⟩, ⟨0x1e94b, .lm⟩, ⟨0x1e94c, .cx⟩,
  ⟨0x1e950, .nd⟩, ⟨0x1e95a, .cx⟩, ⟨0x1e95e, .px⟩, ⟨0x1e960, .cx⟩, ⟨0x1ec71, .no⟩, ⟨0x1ecac, .sx⟩,
  ⟨0x1ecad, .no⟩, ⟨0x1ecb0, .sx⟩, ⟨0x1ecb1, .no⟩, ⟨0x1ecb5, .cx⟩, ⟨0x1ed01, .no⟩, ⟨0x1ed2e, .sx⟩,
  ⟨0x1ed2f, .no⟩, ⟨0x1ed3e, .cx⟩, ⟨0x1ee00, .lo⟩, ⟨0x1ee04, .cx⟩, ⟨0x1ee05, .lo⟩, ⟨0x1ee20, .cx⟩,
  ⟨0x1ee21, .lo⟩, ⟨0x1ee23, .cx⟩, ⟨0x1ee24, .lo⟩, ⟨0x1ee25, .cx⟩, ⟨0x1ee27, .lo⟩, ⟨0x1ee28, .cx⟩,
  ⟨0x1ee29, .lo⟩, ⟨0x1ee33, .cx⟩, ⟨0x1ee34, .lo⟩, ⟨0x1ee38, .cx⟩, ⟨0x1ee39, .lo⟩, ⟨0x1ee3a, .cx⟩,
  ⟨0x1ee3b, .lo⟩, ⟨0x1ee3c, .cx⟩, ⟨0x1ee42, .lo⟩, ⟨0x1ee43, .cx⟩, ⟨0x1ee47, .lo⟩, ⟨0x1ee48, .cx⟩,
  ⟨0x1ee49, .lo⟩, ⟨0x1ee4a, .cx⟩, ⟨0x1ee4b, .lo⟩, ⟨0x1ee4c, .cx⟩, ⟨0x1ee4d, .lo⟩, ⟨0x1ee50, .cx⟩,
  ⟨0x1ee51, .lo⟩, ⟨0x1ee53, .cx⟩, ⟨0x1ee54, .lo⟩, ⟨0x1ee55, .cx⟩, ⟨0x1ee57, .lo⟩, ⟨0x1ee58, .cx⟩,
  ⟨0x1ee59, .lo⟩, ⟨0x1ee5a, .cx⟩, ⟨0x1ee5b, .lo⟩, ⟨0x1ee5c, .cx⟩, ⟨0x1ee5d, .lo⟩, ⟨0x1ee5e, .cx⟩,
  ⟨0x1ee5f, .lo⟩, ⟨0x1ee60, .cx⟩, ⟨0x1ee61, .lo⟩, ⟨0x1ee63, .cx⟩, ⟨0x1ee64, .lo⟩, ⟨0x1ee65, .cx⟩,
  ⟨0x1ee67, .lo⟩, ⟨0x1ee6b, .cx⟩, ⟨0x1ee6c, .lo⟩, ⟨0x1ee73, .cx⟩, ⟨0x1ee74, .lo⟩, ⟨0x1ee78, .cx⟩,
  ⟨0x1ee79, .lo⟩, ⟨0x1ee7d, .cx⟩, ⟨0x1ee7e, .lo⟩, ⟨0x1ee7f, .cx⟩, ⟨0x1ee80, .lo⟩, ⟨0x1ee8a, .cx⟩,
  ⟨0x1ee8b, .lo⟩, ⟨0x1ee9c, .cx⟩, ⟨0x1eea1, .lo⟩, ⟨0x1eea4, .cx⟩, ⟨0x1eea5, .lo⟩, ⟨0x1eeaa, .cx⟩,
  ⟨0x1eeab, .lo⟩, ⟨0x1eebc, .cx⟩, ⟨0x1eef0, .sx⟩, ⟨0x1eef2, .cx⟩, ⟨0x1f000, .sx⟩, ⟨0x1f02c, .cx⟩,
  ⟨0x1f030, .sx⟩, ⟨0x1f094, .cx⟩, ⟨0x1f0a0, .sx⟩, ⟨0x1f0af, .cx⟩, ⟨0x1f0b1, .sx⟩, ⟨0x1f0c0, .cx⟩,
  ⟨0x1f0c1, .sx⟩, ⟨0x1f0d0, .cx⟩, ⟨0x1f0d1, .sx⟩, ⟨0x1f0f6, .cx⟩, ⟨0x1f100, .no⟩, ⟨0x1f10d, .sx⟩,
  ⟨0x1f1ae, .cx⟩, ⟨0x1f1e6, .sx⟩, ⟨0x1f203, .cx⟩, ⟨0x1f210, .sx⟩, ⟨0x1f23c, .cx⟩, ⟨0x1f240, .sx⟩,
  ⟨0x1f249, .cx⟩, ⟨0x1f250, .sx⟩, ⟨0x1f252, .cx⟩, ⟨0x1f260, .sx⟩, ⟨0x1f266, .cx⟩, ⟨0x1f300, .sx⟩,
  ⟨0x1f3fb, .sk⟩, ⟨0x1f400, .sx⟩, ⟨0x1f6d8, .cx⟩, ⟨0x1f6dc, .sx⟩, ⟨0x1f6ed, .cx⟩, ⟨0x1f6f0, .sx⟩,
  ⟨0x1f6fd, .cx⟩, ⟨0x1f700, .sx⟩, ⟨0x1f777, .cx⟩, ⟨0x1f77b, .sx⟩, ⟨0x1f7da, .cx⟩, ⟨0x1f7e0, .sx⟩,
  ⟨0x1f7ec, .cx⟩, ⟨0x1f7f0, .sx⟩, ⟨0x1f7f1, .cx⟩, ⟨0x1f800, .sx⟩, ⟨0x1f80c, .cx⟩, ⟨0x1f810, .sx⟩,
  ⟨0x1f848, .cx⟩, ⟨0x1f850, .sx⟩, ⟨0x1f85a, .cx⟩, ⟨0x1f860, .sx⟩, ⟨0x1f888, .cx⟩, ⟨0x1f890, .sx⟩,
  ⟨0x1f8ae, .cx⟩, ⟨0x1f8b0, .sx⟩, ⟨0x1f8b2, .cx⟩, ⟨0x1f900, .sx⟩, ⟨0x1fa54, .cx⟩, ⟨0x1fa60, .sx⟩,
  ⟨0x1fa6e, .cx⟩, ⟨0x1fa70, .sx⟩, ⟨0x1fa7d, .cx⟩, ⟨0x1fa80, .sx⟩, ⟨0x1fa89, .cx⟩, ⟨0x1fa90, .sx⟩,
  ⟨0x1fabe, .cx⟩, ⟨0x1fabf, .sx⟩, ⟨0x1fac6, .cx⟩, ⟨0x1face, .sx⟩, ⟨0x1fadc, .cx⟩, ⟨0x1fae0, .sx⟩,
  ⟨0x1fae9, .cx⟩, ⟨0x1faf0, .sx⟩, ⟨0x1faf9, .cx⟩, ⟨0x1fb00, .sx⟩, ⟨0x1fb93, .cx⟩, ⟨0x1fb94, .sx⟩,
  ⟨0x1fbcb, .cx⟩, ⟨0x1fbf0, .nd⟩, ⟨0x1fbfa, .cx⟩, ⟨0x20000, .lo⟩, ⟨0x2a6e0, .cx⟩, ⟨0x2a700, .lo⟩,
  ⟨0x2b739, .cx⟩, ⟨0x2b740, .lo⟩, ⟨0x2b81e, .cx⟩, ⟨0x2b820, .lo⟩, ⟨0x2cea2, .cx⟩, ⟨0x2ceb0, .lo⟩,
  ⟨0x2ebe1, .cx⟩, ⟨0x2ebf0, .lo⟩, ⟨0x2ee5e, .cx⟩, ⟨0x2f800, .lo⟩, ⟨0x2fa1e, .cx⟩, ⟨0x30000, .lo⟩,
  ⟨0x3134b, .cx⟩, ⟨0x31350, .lo⟩, ⟨0x323b0, .cx⟩, ⟨0xe0001, .cf⟩, ⟨0xe0002, .cx⟩, ⟨0xe0020, .cf⟩,
  ⟨0xe0080, .cx⟩, ⟨0xe0100, .mn⟩, ⟨0xe01f0, .cx⟩]

/-- Where each run of one category starts, in ascending order. -/
def runs : Array Run :=
  runsA ++ runsB ++ runsC ++ runsD ++ runsE ++ runsF ++ runsG ++ runsH ++ runsI

end Category

end CellScript.Text
