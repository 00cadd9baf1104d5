/-
  Gatehouse/Text/PropertyTables.lean --- which characters show, and which make words.

  Each table covers all characters in order: a row has the length of a run and the
  value of its characters, to base 36.

  Main definitions: `Text.hiddenText`, `Text.alphanumericText`.
-/

set_option autoImplicit false

namespace Gatehouse.Text

/-- Characters that do not show by themselves have a 1: controls, format characters,
blanks but for the space, numbers that stand for no character, and the marks that
extend the character before. -/
def hiddenText : List String :=
  ["w,1;2n,0;y,1;c,0;1,1;gi,0;34,1;8,0;2,1;6,0;4,1;7,0;1,1;1,0;1,1;k,0;1,1;68,0;7,1;4m,0;1,1",
   ";12,0;2,1;1e,0;2,1;3,0;1a,1;1,0;1,1;1,0;2,1;1,0;2,1;1,0;9,1;r,0;4,1;6,0;h,1;a,0;b,1;1,0;",
   "1,1;1a,0;l,1;g,0;1,1;2t,0;8,1;1,0;6,1;2,0;2,1;1,0;4,1;w,0;2,1;1,0;1,1;u,0;t,1;2h,0;b,1;1",
   ",0;e,1;17,0;9,1;7,0;3,1;o,0;4,1;1,0;9,1;1,0;3,1;1,0;7,1;f,0;1,1;p,0;5,1;1,0;1,1;b,0;5,1;",
   "w,0;g,1;16,0;1l,1;1j,0;1,1;1,0;1,1;4,0;8,1;4,0;1,1;3,0;7,1;a,0;2,1;t,0;1,1;2,0;1,1;8,0;2",
   ",1;2,0;2,1;m,0;1,1;7,0;1,1;1,0;3,1;4,0;3,1;1,0;1,1;2,0;6,1;2,0;2,1;2,0;1,1;1,0;d,1;2,0;1",
   ",1;3,0;4,1;o,0;5,1;1,0;1,1;6,0;4,1;2,0;2,1;m,0;1,1;7,0;1,1;2,0;1,1;2,0;1,1;2,0;4,1;3,0;o",
   ",1;4,0;1,1;1,0;7,1;a,0;2,1;3,0;1,1;1,0;c,1;1,0;1,1;9,0;1,1;3,0;1,1;m,0;1,1;7,0;1,1;2,0;1",
   ",1;5,0;3,1;4,0;8,1;1,0;1,1;2,0;3,1;1,0;f,1;2,0;4,1;c,0;7,1;1,0;8,1;2,0;1,1;8,0;2,1;2,0;2",
   ",1;m,0;1,1;7,0;1,1;2,0;1,1;5,0;3,1;1,0;2,1;1,0;6,1;2,0;2,1;2,0;f,1;2,0;1,1;3,0;4,1;i,0;b",
   ",1;1,0;1,1;6,0;3,1;3,0;1,1;4,0;3,1;2,0;1,1;1,0;1,1;2,0;3,1;2,0;3,1;3,0;3,1;c,0;5,1;1,0;1",
   ",1;2,0;3,1;3,0;1,1;3,0;3,1;1,0;l,1;l,0;6,1;3,0;1,1;8,0;1,1;3,0;1,1;n,0;1,1;g,0;3,1;1,0;3",
   ",1;4,0;j,1;3,0;1,1;2,0;2,1;2,0;4,1;a,0;7,1;a,0;1,1;b,0;1,1;3,0;1,1;n,0;1,1;a,0;1,1;5,0;3",
   ",1;2,0;2,1;1,0;1,1;2,0;n,1;3,0;1,1;2,0;4,1;a,0;1,1;3,0;e,1;b,0;1,1;3,0;1,1;15,0;2,1;1,0;",
   "1,1;2,0;5,1;3,0;1,1;3,0;1,1;2,0;4,1;3,0;1,1;a,0;4,1;q,0;2,1;2,0;1,1;i,0;3,1;o,0;1,1;9,0;",
   "1,1;1,0;2,1;7,0;9,1;2,0;6,1;7,0;7,1;a,0;2,1;3,0;c,1;1c,0;1,1;2,0;b,1;8,0;8,1;d,0;11,1;2,",
   "0;1,1;1,0;1,1;5,0;1,1;o,0;1,1;1,0;1,1;a,0;1,1;2,0;9,1;1,0;2,1;5,0;1,1;1,0;9,1;a,0;2,1;4,",
   "0;w,1;o,0;2,1;r,0;1,1;1,0;1,1;1,0;1,1;e,0;1,1;10,0;i,1;1,0;5,1;1,0;2,1;5,0;1d,1;8,0;1,1;",
   "6,0;1,1;d,0;11,1;19,0;4,1;1,0;6,1;1,0;2,1;2,0;2,1;p,0;2,1;4,0;3,1;g,0;4,1;d,0;1,1;2,0;2,",
   "1;6,0;1,1;f,0;1,1;14,0;1,1;1,0;5,1;1,0;2,1;ah,0;1,1;4,0;2,1;7,0;1,1;1,0;1,1;4,0;2,1;15,0",
   ";1,1;4,0;2,1;x,0;1,1;4,0;2,1;7,0;1,1;1,0;1,1;4,0;2,1;f,0;1,1;1l,0;1,1;4,0;2,1;1v,0;5,1;t",
   ",0;3,1;q,0;6,1;2e,0;2,1;6,0;2,1;hs,0;1,1;s,0;3,1;2h,0;7,1;i,0;d,1;j,0;3,1;2,0;9,1;i,0;e,",
   "1;d,0;1,1;3,0;f,1;1g,0;2,1;1,0;7,1;8,0;1,1;2,0;b,1;9,0;3,1;a,0;6,1;a,0;6,1;b,0;5,1;a,0;6",
   ",1;2h,0;7,1;5,0;2,1;y,0;1,1;1,0;5,1;1y,0;a,1;v,0;4,1;4,0;2,1;3,0;4,1;2,0;1,1;6,0;7,1;1,0",
   ";3,1;16,0;2,1;5,0;b,1;18,0;4,1;q,0;6,1;b,0;3,1;1l,0;2,1;2,0;3,1;1k,0;1,1;1,0;9,1;1,0;1,1",
   ";2,0;8,1;6,0;d,1;a,0;6,1;a,0;6,1;e,0;2e,1;1c,0;a,1;4,0;3,1;8,0;1,1;t,0;9,1;c,0;2,1;w,0;4",
   ",1;2,0;6,1;1k,0;1,1;1,0;2,1;3,0;1,1;1,0;d,1;1c,0;8,1;2,0;5,1;f,0;3,1;1q,0;5,1;17,0;2,1;b",
   ",0;b,1;1,0;d,1;1,0;7,1;4,0;1,1;6,0;1,1;3,0;2,1;1,0;5,1;5c,0;1s,1;7q,0;2,1;6,0;2,1;12,0;2",
   ",1;6,0;2,1;8,0;1,1;1,0;1,1;1,0;1,1;1,0;1,1;v,0;2,1;1h,0;1,1;f,0;1,1;e,0;2,1;6,0;1,1;j,0;",
   "2,1;3,0;1,1;9,0;h,1;o,0;8,1;1b,0;h,1;2,0;2,1;r,0;1,1;d,0;3,1;y,0;1q,1;3w,0;4,1;ii,0;m,1;",
   "b,0;l,1;1ec,0;2,1;ah,0;3,1;2,0;5,1;19,0;1,1;1,0;5,1;1,0;2,1;1k,0;7,1;2,0;f,1;n,0;9,1;7,0",
   ";1,1;7,0;1,1;7,0;1,1;7,0;1,1;7,0;1,1;7,0;1,1;7,0;1,1;7,0;x,1;2m,0;y,1;q,0;1,1;2h,0;c,1;5",
   "y,0;q,1;g,0;1,1;15,0;6,1;g,0;1,1;2e,0;4,1;2t,0;5,1;17,0;1,1;2m,0;1,1;2e,0;9,1;1c,0;1,1;m",
   "lp,0;3,1;1j,0;9,1;9o,0;k,1;1b,0;4,1;1,0;a,1;w,0;2,1;28,0;2,1;6,0;8,1;65,0;k,1;h,0;1,1;3,",
   "0;1,1;4,0;1,1;p,0;2,1;5,0;4,1;a,0;6,1;1k,0;8,1;1w,0;a,1;c,0;o,1;d,0;1,1;12,0;8,1;p,0;b,1",
   ";1,0;c,1;u,0;6,1;1c,0;1,1;2,0;4,1;2,0;2,1;2,0;1,1;d,0;1,1;b,0;4,1;7,0;1,1;p,0;1,1;15,0;6",
   ",1;2,0;2,1;2,0;b,1;3,0;1,1;8,0;1,1;1,0;2,1;a,0;2,1;w,0;1,1;1f,0;1,1;1,0;3,1;2,0;2,1;5,0;",
   "2,1;1,0;1,1;1,0;o,1;h,0;2,1;8,0;b,1;6,0;2,1;6,0;2,1;6,0;9,1;7,0;1,1;7,0;1,1;1o,0;4,1;39,",
   "0;1,1;2,0;1,1;4,0;3,1;a,0;6,1;8mc,0;c,1;n,0;4,1;1d,0;6is,1;a6,0;2,1;2y,0;12,1;7,0;c,1;5,",
   "0;5,1;1,0;1,1;o,0;1,1;5,0;1,1;1,0;1,1;2,0;1,1;2,0;1,1;i2,0;w,1;g,0;g,1;a,0;m,1;z,0;1,1;j",
   ",0;1,1;4,0;4,1;5,0;1,1;3r,0;4,1;4d,0;2,1;v,0;3,1;6,0;2,1;6,0;2,1;6,0;2,1;3,0;3,1;7,0;1,1",
   ";7,0;d,1;2,0;2,1;c,0;1,1;q,0;1,1;j,0;1,1;2,0;1,1;f,0;2,1;e,0;y,1;3f,0;5,1;3,0;4,1;19,0;3",
   ",1;2g,0;1,1;d,0;3,1;1,0;1b,1;19,0;3n,1;t,0;3,1;1d,0;g,1;r,0;4,1;10,0;9,1;u,0;5,1;12,0;a,",
   "1;u,0;1,1;11,0;4,1;e,0;16,1;4e,0;2,1;a,0;6,1;10,0;4,1;10,0;4,1;14,0;8,1;1g,0;b,1;c,0;1,1",
   ";f,0;1,1;7,0;1,1;2,0;1,1;b,0;1,1;f,0;1,1;7,0;1,1;2,0;3,1;1g,0;c,1;8n,0;9,1;m,0;a,1;8,0;o",
   ",1;6,0;1,1;16,0;1,1;9,0;1x,1;6,0;2,1;1,0;1,1;18,0;1,1;2,0;3,1;1,0;2,1;n,0;1,1;20,0;8,1;9",
   ",0;1c,1;j,0;1,1;2,0;5,1;x,0;3,1;r,0;5,1;r,0;12,1;1k,0;4,1;k,0;2,1;1b,0;f,1;4,0;1,1;3,0;1",
   ",1;t,0;a,1;9,0;7,1;9,0;7,1;1s,0;w,1;11,0;6,1;c,0;9,1;1i,0;3,1;t,0;2,1;r,0;5,1;q,0;7,1;4,",
   "0;c,1;7,0;28,1;21,0;1j,1;1f,0;d,1;1f,0;7,1;16,0;c,1;a,0;6,1;12,0;8,1;o,0;8,1;2,0;5s,1;v,",
   "0;1,1;16,0;3,1;1,0;2,1;2,0;g,1;6,0;8,1;9,0;13,1;14,0;8,1;m,0;b,1;9,0;m,1;i,0;4,1;4,0;12,",
   "1;s,0;k,1;n,0;9,1;1,0;1,1;1i,0;f,1;7,0;4,1;u,0;1,1;2,0;2,1;1,0;c,1;1d,0;4,1;2,0;2,1;2,0;",
   "1,1;4,0;e,1;p,0;7,1;a,0;9,1;10,0;5,1;1,0;9,1;i,0;8,1;z,0;1,1;3,0;b,1;1g,0;9,1;1,0;1,1;8,",
   "0;4,1;2,0;1,1;g,0;1,1;k,0;b,1;i,0;1,1;s,0;3,1;2,0;4,1;6,0;1,1;2,0;1r,1;7,0;1,1;1,0;1,1;4",
   ",0;1,1;f,0;1,1;b,0;6,1;1b,0;1,1;3,0;d,1;a,0;8,1;2,0;1,1;8,0;2,1;2,0;2,1;m,0;1,1;7,0;1,1;",
   "2,0;1,1;5,0;3,1;1,0;1,1;1,0;1,1;4,0;2,1;2,0;2,1;2,0;3,1;1,0;c,1;7,0;s,1;a,0;1,1;1,0;2,1;",
   "1,0;1,1;12,0;1,1;1,0;1,1;2,0;f,1;1,0;1,1;2,0;3,1;1,0;1,1;3,0;1,1;2,0;13,1;1k,0;8,1;2,0;3",
   ",1;1,0;1,1;l,0;1,1;1,0;1,1;3,0;u,1;1c,0;1,1;2,0;6,1;1,0;1,1;2,0;1,1;1,0;2,1;1,0;2,1;4,0;",
   "8,1;a,0;4m,1;1b,0;1,1;2,0;6,1;4,0;2,1;1,0;2,1;r,0;10,1;1f,0;8,1;2,0;1,1;1,0;2,1;4,0;b,1;",
   "a,0;6,1;d,0;j,1;17,0;1,1;1,0;1,1;2,0;8,1;2,0;6,1;a,0;6,1;k,0;s,1;r,0;3,1;1,0;1,1;2,0;4,1",
   ";1,0;9,1;n,0;55,1;1b,0;9,1;1,0;2,1;1,0;2s,1;2b,0;c,1;8,0;2,1;1,0;2,1;8,0;1,1;2,0;1,1;o,0",
   ";1,1;5,0;1,1;2,0;6,1;4,0;1,1;3,0;9,1;a,0;1y,1;8,0;2,1;16,0;8,1;4,0;1,1;4,0;r,1;1,0;a,1;1",
   "4,0;6,1;2,0;4,1;8,0;9,1;1,0;6,1;2,0;3,1;1a,0;d,1;1,0;2,1;9,0;d,1;21,0;7,1;a,0;2f,1;1,0;3",
   ",1;1,0;1,1;1,0;2g,1;y,0;e,1;a,0;6,1;9,0;1,1;12,0;e,1;1,0;1,1;6,0;a,1;t,0;3,1;w,0;p,1;1,0",
   ";7,1;1,0;2,1;1,0;23,1;7,0;1,1;2,0;1,1;12,0;l,1;1,0;9,1;a,0;6,1;6,0;1,1;2,0;1,1;11,0;4,1;",
   "2,0;1,1;1,0;1,1;1,0;7,1;a,0;6,1;18,0;4,1;a,0;6u,1;j,0;2,1;4,0;9,1;f,0;1,1;10,0;8,1;2,0;3",
   ",1;n,0;2e,1;1,0;f,1;1e,0;d,1;pn,0;2u,1;33,0;1,1;5,0;b,1;5g,0;218,1;2r,0;d,1;ts,0;h,1;6,0",
   ";p,1;32z,0;5,1;g7,0;5a1,1;u,0;c,1;3,0;3,1;a,0;1c6,1;ft,0;7,1;v,0;1,1;a,0;4,1;29,0;1,1;a,",
   "0;6,1;u,0;7,1;1,0;a,1;1c,0;7,1;f,0;a,1;a,0;1,1;7,0;1,1;l,0;5,1;j,0;c0,1;1m,0;5i,1;2j,0;5",
   ",1;p,0;2,1;p,0;18,1;23,0;5,1;1k,0;b,1;d,0;1s,1;4,0;e,1;5,0;9,1;5p2,0;15,1;w,0;2p,1;37,0;",
   "6pp,1;4,0;1,1;7,0;1,1;2,0;1,1;83,0;f,1;1,0;t,1;3,0;2,1;1,0;e,1;4,0;8,1;b0,0;1s4,1;2z,0;5",
   ",1;d,0;3,1;9,0;7,1;a,0;2,1;1,0;2,1;1,0;31c,1;71,0;3,1;c4,0;6,1;n,0;f,1;h,0;2n,1;38,0;1o,",
   "1;6u,0;a,1;13,0;2,1;1o,0;5,1;3,0;m,1;2,0;7,1;u,0;4,1;1p,0;l,1;1u,0;3,1;1,0;3e,1;k,0;c,1;",
   "k,0;c,1;2f,0;9,1;p,0;3r,1;2d,0;1,1;1z,0;1,1;2,0;2,1;1,0;2,1;2,0;2,1;4,0;1,1;c,0;1,1;1,0;",
   "1,1;7,0;1,1;1t,0;1,1;4,0;2,1;8,0;1,1;7,0;1,1;s,0;1,1;4,0;1,1;5,0;1,1;1,0;3,1;7,0;1,1;9g,",
   "0;2,1;84,0;2,1;fm,0;1j,1;4,0;1e,1;8,0;1,1;e,0;1,1;7,0;vo,1;v,0;6,1;6,0;79,1;1q,0;42,1;19",
   ",0;a,1;7,0;2,1;a,0;4,1;2,0;8w,1;u,0;i,1;18,0;4,1;a,0;5,1;1,0;cw,1;s,0;4,1;a,0;5y,1;u,0;2",
   ",1;b,0;4,1;1,0;5c,1;v,0;1,1;3,0;1,1;2,0;1,1;7,0;2,1;5,0;9,1;2,0;68,1;7,0;1,1;4,0;1,1;2,0",
   ";1,1;f,0;1,1;5h,0;2,1;9,0;1c,1;1w,0;7,1;1,0;4,1;a,0;4,1;2,0;lt,1;1w,0;24,1;1p,0;5e,1;4,0",
   ";1,1;r,0;1,1;2,0;1,1;1,0;2,1;1,0;1,1;a,0;1,1;4,0;1,1;1,0;1,1;1,0;6,1;1,0;4,1;1,0;1,1;1,0",
   ";1,1;1,0;1,1;3,0;1,1;2,0;1,1;1,0;2,1;1,0;1,1;1,0;1,1;1,0;1,1;1,0;1,1;1,0;1,1;2,0;1,1;1,0",
   ";2,1;4,0;1,1;7,0;1,1;4,0;1,1;4,0;1,1;1,0;1,1;a,0;1,1;h,0;5,1;3,0;1,1;5,0;1,1;h,0;1g,1;2,",
   "0;7i,1;18,0;4,1;2s,0;c,1;f,0;2,1;f,0;1,1;f,0;1,1;11,0;a,1;4u,0;1k,1;t,0;d,1;18,0;4,1;9,0",
   ";7,1;2,0;e,1;6,0;4a,1;rd,0;3,1;h,0;3,1;d,0;3,1;62,0;6,1;c,0;4,1;1,0;f,1;c,0;4,1;1k,0;8,1",
   ";a,0;6,1;14,0;8,1;u,0;2,1;c,0;4,1;2,0;e,1;9,0;13,1;9k,0;8,1;e,0;2,1;d,0;3,1;b,0;3,1;1l,0",
   ";1,1;1,0;4,1;g,0;2,1;c,0;4,1;a,0;7,1;43,0;1,1;2v,0;sl,1;wyo,0;w,1;3dq,0;2,1;4ge,0;2,1;5r",
   "l,0;f,1;ha,0;1wi,1;f2,0;15u,1;3t7,0;5,1;6ju,0;jdl2,1"]

/-- Letters and numbers have a 1. -/
def alphanumericText : List String :=
  ["1c,0;a,1;7,0;q,1;6,0;q,1;1b,0;1,1;7,0;2,1;1,0;1,1;3,0;2,1;1,0;3,1;1,0;n,1;1,0;v,1;1,0;cq",
   ",1;4,0;c,1;e,0;5,1;7,0;1,1;1,0;1,1;2e,0;1,1;t,0;i,1;1,0;2,1;2,0;4,1;1,0;1,1;6,0;1,1;1,0;",
   "3,1;1,0;1,1;1,0;k,1;1,0;2b,1;1,0;3v,1;8,0;4m,1;1,0;12,1;2,0;1,1;6,0;15,1;13,0;e,1;1,0;1,",
   "1;1,0;2,1;1,0;2,1;1,0;1,1;8,0;r,1;4,0;4,1;t,0;b,1;5,0;1k,1;1,0;h,1;4,0;2u,1;1,0;8,1;4,0;",
   "8,1;4,0;g,1;2,0;1,1;g,0;1c,1;d,0;2t,1;e,0;17,1;9,0;2,1;4,0;1,1;5,0;o,1;2,0;j,1;j,0;p,1;7",
   ",0;b,1;5,0;o,1;1,0;7,1;7,0;1,1;8,0;16,1;a,0;c,1;3,0;7,1;6,0;24,1;1,0;g,1;1,0;3,1;4,0;f,1",
   ";2,0;a,1;1,0;j,1;1,0;8,1;2,0;2,1;2,0;m,1;1,0;7,1;1,0;1,1;3,0;4,1;3,0;8,1;2,0;2,1;2,0;2,1",
   ";1,0;1,1;8,0;1,1;4,0;2,1;1,0;5,1;2,0;c,1;2,0;6,1;2,0;1,1;4,0;3,1;1,0;6,1;4,0;2,1;2,0;m,1",
   ";1,0;7,1;1,0;2,1;1,0;2,1;1,0;2,1;4,0;5,1;4,0;2,1;2,0;2,1;4,0;1,1;7,0;4,1;1,0;1,1;7,0;g,1",
   ";b,0;3,1;1,0;9,1;1,0;3,1;1,0;m,1;1,0;7,1;1,0;2,1;1,0;5,1;3,0;9,1;1,0;3,1;1,0;2,1;3,0;1,1",
   ";f,0;4,1;2,0;a,1;9,0;4,1;4,0;3,1;1,0;8,1;2,0;2,1;2,0;m,1;1,0;7,1;1,0;2,1;1,0;5,1;3,0;8,1",
   ";2,0;2,1;2,0;2,1;9,0;2,1;4,0;2,1;1,0;5,1;2,0;a,1;1,0;7,1;a,0;2,1;1,0;6,1;3,0;3,1;1,0;4,1",
   ";3,0;2,1;1,0;1,1;1,0;2,1;3,0;2,1;3,0;3,1;3,0;c,1;4,0;5,1;3,0;3,1;1,0;3,1;3,0;1,1;6,0;1,1",
   ";e,0;d,1;d,0;d,1;1,0;3,1;1,0;n,1;1,0;g,1;3,0;8,1;1,0;3,1;1,0;3,1;8,0;2,1;1,0;3,1;1,0;2,1",
   ";2,0;4,1;2,0;a,1;8,0;7,1;1,0;4,1;1,0;8,1;1,0;3,1;1,0;n,1;1,0;a,1;1,0;5,1;3,0;8,1;1,0;3,1",
   ";1,0;3,1;8,0;2,1;5,0;3,1;1,0;4,1;2,0;a,1;1,0;3,1;c,0;d,1;1,0;3,1;1,0;15,1;2,0;8,1;1,0;3,",
   "1;1,0;3,1;1,0;1,1;5,0;g,1;2,0;j,1;1,0;6,1;1,0;3,1;1,0;i,1;3,0;o,1;1,0;9,1;1,0;1,1;2,0;7,",
   "1;8,0;6,1;1,0;1,1;1,0;8,1;6,0;a,1;2,0;2,1;d,0;1m,1;5,0;7,1;6,0;1,1;2,0;a,1;13,0;2,1;1,0;",
   "1,1;1,0;5,1;1,0;o,1;1,0;1,1;1,0;j,1;1,0;3,1;2,0;5,1;1,0;1,1;6,0;1,1;2,0;a,1;2,0;4,1;w,0;",
   "1,1;v,0;k,1;c,0;8,1;1,0;10,1;4,0;j,1;4,0;g,1;1,0;10,1;1v,0;1j,1;1,0;1,1;2,0;f,1;6,0;26,1",
   ";2,0;12,1;1,0;1,1;5,0;1,1;2,0;17,1;1,0;99,1;1,0;4,1;2,0;7,1;1,0;1,1;1,0;4,1;2,0;15,1;1,0",
   ";4,1;2,0;x,1;1,0;4,1;2,0;7,1;1,0;1,1;1,0;4,1;2,0;f,1;1,0;1l,1;1,0;4,1;2,0;1v,1;e,0;k,1;3",
   ",0;g,1;g,0;2e,1;2,0;6,1;3,0;h8,1;2,0;h,1;1,0;q,1;5,0;23,1;3,0;b,1;7,0;k,1;b,0;l,1;c,0;k,",
   "1;c,0;d,1;1,0;3,1;1,0;2,1;c,0;1g,1;2,0;j,1;e,0;1,1;4,0;1,1;3,0;a,1;6,0;a,1;m,0;a,1;6,0;2",
   "h,1;7,0;17,1;5,0;1y,1;a,0;v,1;1,0;c,1;4,0;9,1;d,0;14,1;2,0;5,1;b,0;18,1;4,0;q,1;6,0;b,1;",
   "11,0;s,1;4,0;1r,1;2,0;k,1;b,0;a,1;6,0;a,1;d,0;1,1;n,0;2,1;b,0;3,1;1d,0;1g,1;1,0;f,1;1,0;",
   "8,1;3,0;a,1;12,0;16,1;2,0;1m,1;1,0;b,1;e,0;1j,1;9,0;a,1;3,0;1d,1;2,0;b,1;5,0;17,1;2,0;3,",
   "1;15,0;4,1;1,0;6,1;1,0;2,1;3,0;1,1;5,0;5c,1;j,0;y,1;b,0;7q,1;2,0;6,1;2,0;12,1;2,0;6,1;2,",
   "0;8,1;1,0;1,1;1,0;1,1;1,0;1,1;1,0;v,1;2,0;1h,1;1,0;7,1;1,0;1,1;3,0;3,1;1,0;7,1;3,0;4,1;2",
   ",0;6,1;4,0;d,1;5,0;3,1;1,0;7,1;37,0;2,1;2,0;6,1;5,0;b,1;6,0;d,1;2t,0;1,1;4,0;1,1;2,0;a,1",
   ";1,0;1,1;3,0;5,1;6,0;1,1;1,0;1,1;1,0;1,1;1,0;4,1;1,0;b,1;2,0;4,1;5,0;5,1;4,0;1,1;1,0;1m,",
   "1;k6,0;1o,1;q,0;22,1;hi,0;u,1;vg,0;6d,1;6,0;4,1;3,0;2,1;9,0;1,1;2,0;12,1;1,0;1,1;5,0;1,1",
   ";2,0;1k,1;7,0;1,1;g,0;n,1;9,0;7,1;1,0;7,1;1,0;7,1;1,0;7,1;1,0;7,1;1,0;7,1;1,0;7,1;1,0;7,",
   "1;1,0;w,1;1b,0;1,1;d1,0;3,1;p,0;9,1;7,0;5,1;2,0;5,1;4,0;2e,1;6,0;3,1;1,0;2i,1;1,0;4,1;5,",
   "0;17,1;1,0;2m,1;3,0;4,1;a,0;w,1;1c,0;g,1;w,0;a,1;u,0;8,1;1,0;f,1;w,0;a,1;13,0;f,1;8w,0;5",
   "34,1;1s,0;h3h,1;1v,0;1a,1;2,0;7h,1;3,0;s,1;k,0;1b,1;5,0;8,1;3,0;35,1;13,0;9,1;2,0;2v,1;2",
   ",0;2a,1;k,0;l,1;1,0;x,1;8,0;6,1;a,0;1g,1;c,0;1w,1;1,0;1,1;a,0;a,1;o,0;6,1;3,0;1,1;1,0;1a",
   ",1;5,0;z,1;d,0;t,1;3,0;1f,1;1,0;c,1;f,0;b,1;6,0;v,1;1,0;1j,1;9,0;e,1;2,0;a,1;6,0;n,1;3,0",
   ";1x,1;1,0;1,1;1,0;1,1;o,0;3,1;2,0;g,1;2,0;4,1;b,0;6,1;2,0;6,1;2,0;6,1;9,0;7,1;1,0;7,1;1,",
   "0;17,1;1,0;e,1;6,0;3f,1;5,0;a,1;6,0;8mc,1;c,0;n,1;4,0;1d,1;6is,0;a6,1;2,0;2y,1;12,0;7,1;",
   "c,0;5,1;5,0;c,1;1,0;d,1;1,0;5,1;1,0;1,1;1,0;2,1;1,0;2,1;1,0;30,1;x,0;a3,1;i,0;1s,1;2,0;1",
   "i,1;14,0;c,1;38,0;5,1;1,0;3r,1;j,0;a,1;7,0;q,1;6,0;q,1;b,0;2h,1;3,0;6,1;2,0;6,1;2,0;6,1;",
   "2,0;3,1;z,0;c,1;1,0;q,1;1,0;j,1;1,0;2,1;1,0;f,1;2,0;e,1;y,0;3f,1;c,0;19,1;c,0;1l,1;h,0;2",
   ",1;6s,0;t,1;3,0;1d,1;g,0;r,1;4,0;10,1;9,0;u,1;5,0;17,1;5,0;u,1;2,0;10,1;4,0;8,1;1,0;5,1;",
   "16,0;4e,1;2,0;a,1;6,0;10,1;4,0;10,1;4,0;14,1;8,0;1g,1;c,0;b,1;1,0;f,1;1,0;7,1;1,0;2,1;1,",
   "0;b,1;1,0;f,1;1,0;7,1;1,0;2,1;3,0;1g,1;c,0;8n,1;9,0;m,1;a,0;8,1;o,0;6,1;1,0;16,1;1,0;9,1",
   ";1x,0;6,1;2,0;1,1;1,0;18,1;1,0;2,1;3,0;1,1;2,0;n,1;2,0;v,1;2,0;12,1;8,0;9,1;1c,0;j,1;1,0",
   ";2,1;5,0;x,1;4,0;q,1;6,0;q,1;12,0;1k,1;4,0;k,1;2,0;1e,1;1,0;2,1;5,0;8,1;1,0;3,1;1,0;t,1;",
   "a,0;9,1;n,0;v,1;1,0;w,1;w,0;8,1;1,0;s,1;6,0;5,1;g,0;1i,1;a,0;m,1;2,0;r,1;5,0;q,1;n,0;7,1",
   ";28,0;21,1;1j,0;1f,1;d,0;1f,1;7,0;1a,1;8,0;a,1;6,0;12,1;3,0;1,1;5,0;n,1;62,0;v,1;1,0;16,",
   "1;1,0;2,1;3,0;2,1;g,0;6,1;1e,0;3,1;3,0;14,1;8,0;m,1;b,0;4,1;r,0;i,1;1a,0;s,1;k,0;n,1;9,0",
   ";1y,1;c,0;u,1;1,0;5,1;a,0;1l,1;9,0;1,1;d,0;p,1;7,0;a,1;6,0;1f,1;3,0;a,1;4,0;4,1;8,0;z,1;",
   "3,0;1,1;9,0;1s,1;1,0;4,1;9,0;d,1;1,0;1,1;4,0;k,1;b,0;i,1;1,0;y,1;2,0;1,1;6,0;4,1;1q,0;7,",
   "1;1,0;1,1;1,0;4,1;1,0;f,1;1,0;a,1;7,0;1l,1;7,0;a,1;6,0;4,1;1,0;8,1;2,0;2,1;2,0;m,1;1,0;7",
   ",1;1,0;2,1;1,0;5,1;3,0;8,1;2,0;2,1;2,0;2,1;3,0;1,1;6,0;1,1;5,0;7,1;s,0;a,1;1,0;1,1;2,0;1",
   ",1;1,0;12,1;1,0;a,1;1,0;1,1;2,0;1,1;1,0;4,1;1,0;2,1;3,0;1,1;1,0;1,1;18,0;1u,1;1,0;3,1;1,",
   "0;4,1;5,0;a,1;5,0;3,1;u,0;1u,1;2,0;2,1;1,0;1,1;8,0;a,1;4m,0;1i,1;2,0;7,1;p,0;6,1;y,0;1r,",
   "1;1,0;1,1;3,0;1,1;b,0;a,1;12,0;1i,1;2,0;1,1;7,0;a,1;6,0;k,1;s,0;r,1;2,0;e,1;5,0;c,1;4,0;",
   "7,1;55,0;1l,1;2v,0;2b,1;c,0;8,1;2,0;1,1;2,0;8,1;1,0;2,1;1,0;u,1;1,0;2,1;2,0;2,1;2,0;4,1;",
   "d,0;a,1;1y,0;8,1;2,0;1a,1;2,0;6,1;1,0;1,1;1,0;2,1;r,0;1f,1;2,0;a,1;h,0;20,1;5,0;1,1;i,0;",
   "21,1;2v,0;8,1;2g,0;x,1;f,0;a,1;6,0;9,1;1,0;19,1;1,0;7,1;1,0;1,1;f,0;t,1;5,0;u,1;2,0;m,1;",
   "1,0;e,1;21,0;7,1;1,0;2,1;1,0;18,1;3,0;1,1;1,0;2,1;1,0;3,1;1,0;1,1;2,0;2,1;8,0;a,1;6,0;6,",
   "1;1,0;2,1;1,0;11,1;1,0;2,1;1,0;4,1;1,0;1,1;7,0;a,1;6,0;18,1;4,0;a,1;6u,0;n,1;9,0;h,1;1,0",
   ";15,1;3,0;3,1;f,0;a,1;2e,0;1,1;f,0;l,1;17,0;pm,1;2u,0;33,1;h,0;5g,1;218,0;2p,1;f,0;ts,1;",
   "h,0;6,1;p,0;32z,1;5,0;g7,1;5a1,0;1b,1;1,0;a,1;1c6,0;ft,1;7,0;v,1;1,0;a,1;6,0;27,1;1,0;a,",
   "1;6,0;u,1;i,0;1c,1;g,0;4,1;c,0;a,1;1,0;7,1;1,0;l,1;5,0;j,1;c0,0;19,1;3,0;a,1;5i,0;2f,1;9",
   ",0;p,1;2,0;p,1;18,0;23,1;4,0;1l,1;7,0;h,1;1s,0;2,1;1,0;1,1;c,0;7,1;9,0;5p2,1;15,0;w,1;2p",
   ",0;37,1;6pp,0;4,1;1,0;7,1;1,0;2,1;1,0;83,1;f,0;1,1;t,0;3,1;2,0;1,1;e,0;4,1;8,0;b0,1;1s4,",
   "0;2z,1;5,0;d,1;3,0;9,1;7,0;a,1;4,0;1,1;381,0;a,1;152,0;k,1;c,0;k,1;30,0;p,1;3r,0;2d,1;1,",
   "0;1z,1;1,0;2,1;2,0;1,1;2,0;2,1;2,0;4,1;1,0;c,1;1,0;1,1;1,0;7,1;1,0;1t,1;1,0;4,1;2,0;8,1;",
   "1,0;7,1;1,0;s,1;1,0;4,1;1,0;5,1;1,0;1,1;3,0;7,1;1,0;9g,1;2,0;p,1;1,0;p,1;1,0;v,1;1,0;p,1",
   ";1,0;v,1;1,0;p,1;1,0;v,1;1,0;p,1;1,0;v,1;1,0;p,1;1,0;8,1;2,0;1e,1;1ds,0;v,1;6,0;6,1;5x,0",
   ";7,1;1,0;h,1;2,0;7,1;1,0;2,1;1,0;5,1;5,0;1q,1;x,0;1,1;34,0;19,1;a,0;7,1;2,0;a,1;4,0;1,1;",
   "8x,0;u,1;i,0;18,1;4,0;a,1;d2,0;s,1;4,0;a,1;5y,0;u,1;2,0;b,1;5h,0;v,1;1,0;m,1;8,0;2,1;68,",
   "0;7,1;1,0;4,1;1,0;2,1;1,0;f,1;1,0;5h,1;2,0;9,1;1c,0;1w,1;3,0;1,1;3,0;1,1;4,0;a,1;lz,0;1n",
   ",1;1,0;3,1;1,0;4,1;24,0;19,1;1,0;f,1;5e,0;4,1;1,0;r,1;1,0;2,1;1,0;1,1;2,0;1,1;1,0;a,1;1,",
   "0;4,1;1,0;1,1;1,0;1,1;6,0;1,1;4,0;1,1;1,0;1,1;1,0;1,1;1,0;3,1;1,0;2,1;1,0;1,1;2,0;1,1;1,",
   "0;1,1;1,0;1,1;1,0;1,1;1,0;1,1;1,0;2,1;1,0;1,1;2,0;4,1;1,0;7,1;1,0;4,1;1,0;4,1;1,0;1,1;1,",
   "0;a,1;1,0;h,1;5,0;3,1;1,0;5,1;1,0;h,1;g4,0;d,1;z,0;q,1;6,0;q,1;6,0;q,1;21y,0;a,1;sm,0;wy",
   "o,1;w,0;3dq,1;2,0;4ge,1;2,0;5rl,1;f,0;ha,1;1wi,0;f2,1;15u,0;3t7,1;5,0;6ju,1;jdl2,0"]

end Gatehouse.Text
