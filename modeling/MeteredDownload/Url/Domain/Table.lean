import MeteredDownload.Text.Runs

/-!
# How the characters of a domain are folded

Two tables of Unicode 15: what stands for each character that a domain can be written with, and which
characters are combining marks.
-/
set_option autoImplicit false
namespace MeteredDownload.Url.Domain

open Text

/-- What each character is folded to: `v` stays as it is, `x` cannot be in a domain, `i` does not count.
In a run of `a` every other character becomes the next one, a run of `s` becomes the run that begins with
the given character, and each `t` becomes the given characters. -/
def foldText : String :=
  "v41 s1A.61 v25 x20 t.20 v7 t.20.308 v t.61 v2 i v t.20.304 v2 s2.32 t.20.301 t.3BC v2
   t.20.327 t.31 t.6F v t.31.2044.34 t.31.2044.32 t.33.2044.34 v s17.E0 v s7.F8 v21 a30 t.69.307
   v t2.69.6A a4 v a6 t2.6C.B7 a8 t.2BC.6E a2E t.FF a6 t.73 v t.253 a4 t.254 t.188 v s2.256
   t.18C v2 t.1DD t.259 t.25B t.192 v t.260 t.263 v t.269 t.268 t.199 v3 t.26F t.272 v t.275 a6
   t.280 t.1A8 v t.283 v2 t.1AD v t.288 t.1B0 v s2.28A a4 t.292 t.1B9 v3 t.1BD v7 t3.64.17E
   t3.6C.6A t3.6E.6A a10 v a12 v t3.64.7A t.1F5 v t.195 t.1BF a28 t.19E v a12 v6 t.2C65 t.23C v
   t.19A t.2C66 v2 t.242 v t.180 t.289 t.28C aA v60 t.68 t.266 t.6A t.72 t.279 t.27B t.281 t.77
   t.79 v1F t.20.306 t.20.307 t.20.30A t.20.328 t.20.303 t.20.30B v2 t.263 t.6C t.73 t.78 t.295
   v5B s2.300 v t.313 t.308.301 t.3B9 v9 i v20 a4 t.2B9 v t.377 v x2 t.20.3B9 v3 t.3B t.3F3 x4
   t.20.301 t.20.308.301 t.3AC t.B7 s3.3AD x t.3CC x s2.3CD v s11.3B1 x s9.3C3 v23 t.3D7 t.3B2
   t.3B8 t.3C5 t.3CD t.3CB t.3C6 t.3C0 v a18 t.3BA t.3C1 t.3C3 v t.3B8 t.3B5 v t.3F8 v t.3C3
   t.3FB v2 s3.37B s10.450 s20.430 v30 a22 v8 a36 x aE v a60 x s26.561 x2 v2E t.565.582 v3 x2 v3
   x v37 x8 v1B x4 v6 x11 v16 x v58 t.627.674 t.648.674 t.6C7.674 t.64A.674 v64 x v30 x2 v3B x2
   v65 xE v3B x2 v31 x2 vF x v1C x2 v x vB x5 v1F x9 v4A x v75 t.915.93C t.916.93C t.917.93C
   t.91C.93C t.921.93C t.922.93C t.92B.93C t.92F.93C v24 x v8 x2 v2 x2 v16 x v7 x v x3 v4 x2 v9
   x2 v2 x2 v4 x8 v x4 t.9A1.9BC t.9A2.9BC x t.9AF.9BC v4 x2 v19 x2 v3 x v6 x4 v2 x2 v16 x v7 x
   v t.A32.A3C x v t.A38.A3C x v2 x2 v x v5 x4 v2 x2 v3 x3 v x7 t.A16.A3C t.A17.A3C t.A1C.A3C v
   x t.A2B.A3C x7 v11 xA v3 x v9 x v3 x v16 x v7 x v2 x v5 x2 vA x v3 x v3 x2 v xF v4 x2 vC x7
   v7 x v3 x v8 x2 v2 x2 v16 x v7 x v2 x v5 x2 v9 x2 v2 x2 v3 x7 v3 x4 t.B21.B3C t.B22.B3C x v5
   x2 v12 xA v2 x v6 x3 v3 x v4 x3 v2 x v x v2 x3 v2 x3 v3 x3 vC x4 v5 x3 v3 x v4 x2 v x6 v xE
   v15 x5 vD x v3 x v17 x v10 x2 v9 x v3 x v4 x7 v2 x v3 x2 v x2 v4 x2 vA x7 v16 x v3 x v17 x vA
   x v5 x2 v9 x v3 x v4 x7 v2 x6 v2 x v4 x2 vA x v3 xC vD x v3 x v33 x v3 x v6 x4 v10 x2 v1A x
   v3 x v12 x3 v18 x v9 x v x2 v7 x3 v x4 v6 x v x v8 x6 vA x2 v3 xC v32 t.E4D.E32 v7 x4 v1D x25
   v2 x v x v5 x v18 x v x vC t.ECD.EB2 vA x2 v5 x v x v7 x vA x2 t.EAB.E99 t.EAB.EA1 v2 x20 vC
   t.F0B v36 t.F42.FB7 v4 x v4 t.F4C.FB7 v4 t.F51.FB7 v4 t.F56.FB7 v4 t.F5B.FB7 vC t.F40.FB5 v3
   x4 v2 t.F71.F72 v t.F71.F74 t.FB2.F80 t.FB2.F71.F80 t.FB3.F80 t.FB3.F71.F80 v7 t.F71.F80 v11
   t.F92.FB7 v4 x v4 t.F9C.FB7 v4 t.FA1.FB7 v4 t.FA6.FB7 v4 t.FAB.FB7 vC t.F90.FB5 v3 x vF x vD
   x25 vA0 x27 t.2D27 x5 t.2D2D x2 v2C t.10DC v62 x2 vE8 x v4 x2 v7 x v x v4 x2 v29 x v4 x2 v21
   x v4 x2 v7 x v x v4 x2 vF x v39 x v4 x2 v43 x2 v20 x3 v1A x6 v56 x2 s6.13F0 x2 v280 x v1C x3
   v59 x7 v16 x9 v18 x9 v14 xC vD x v3 x v2 xC v34 x2 v28 x2 vA x6 vA x6 v6 x v4 i3 x i vA x6
   v59 x7 v2B x5 v46 xA v1F x vC x4 vC x4 v x3 v2A x2 v5 xB v2C x4 v1A x6 vB x3 v3E x2 v41 x v1D
   x2 vB x6 vA x6 vE x2 v1F x31 v4D x3 v2F x v74 x8 v3C x3 vF x3 v33 t.432 t.434 t.43E s2.441
   t.442 t.44A t.463 t.A64B x7 s2B.10D0 x2 s3.10FD v8 x8 v2B x5 v2C t.61 t.E6 t.62 v s2.64 t.1DD
   s8.67 v t.6F t.223 t.70 t.72 s2.74 t.77 t.61 s2.250 t.1D02 t.62 s2.64 t.259 s2.25B t.67 v
   t.6B t.6D t.14B t.6F t.254 s2.1D16 t.70 s2.74 t.1D1D t.26F t.76 t.1D25 s3.3B2 s2.3C6 t.69
   t.72 s2.75 s2.3B2 t.3C1 s2.3C6 vD t.43D v22 t.252 t.63 t.255 t.F0 t.25C t.66 t.25F t.261
   t.265 s3.268 t.1D7B t.29D t.26D t.1D85 t.29F t.271 t.270 s4.272 t.278 s2.282 t.1AB s2.289
   t.1D1C s2.28B t.7A s3.290 t.3B8 v40 a96 v4 t.61.2BE t.1E61 v2 t.73.73 v a60 v8 s8.1F00 v6 x2
   s6.1F10 x2 v8 s8.1F20 v8 s8.1F30 v6 x2 s6.1F40 x2 v8 x t.1F51 x t.1F53 x t.1F55 x t.1F57 v8
   s8.1F60 v t.3AC v t.3AD v t.3AE v t.3AF v t.3CC v t.3CD v t.3CE x2 t.1F00.3B9 t.1F01.3B9
   t.1F02.3B9 t.1F03.3B9 t.1F04.3B9 t.1F05.3B9 t.1F06.3B9 t.1F07.3B9 t.1F00.3B9 t.1F01.3B9
   t.1F02.3B9 t.1F03.3B9 t.1F04.3B9 t.1F05.3B9 t.1F06.3B9 t.1F07.3B9 t.1F20.3B9 t.1F21.3B9
   t.1F22.3B9 t.1F23.3B9 t.1F24.3B9 t.1F25.3B9 t.1F26.3B9 t.1F27.3B9 t.1F20.3B9 t.1F21.3B9
   t.1F22.3B9 t.1F23.3B9 t.1F24.3B9 t.1F25.3B9 t.1F26.3B9 t.1F27.3B9 t.1F60.3B9 t.1F61.3B9
   t.1F62.3B9 t.1F63.3B9 t.1F64.3B9 t.1F65.3B9 t.1F66.3B9 t.1F67.3B9 t.1F60.3B9 t.1F61.3B9
   t.1F62.3B9 t.1F63.3B9 t.1F64.3B9 t.1F65.3B9 t.1F66.3B9 t.1F67.3B9 v2 t.1F70.3B9 t.3B1.3B9
   t.3AC.3B9 x v t.1FB6.3B9 s2.1FB0 t.1F70 t.3AC t.3B1.3B9 t.20.313 t.3B9 t.20.313 t.20.342
   t.20.308.342 t.1F74.3B9 t.3B7.3B9 t.3AE.3B9 x v t.1FC6.3B9 t.1F72 t.3AD t.1F74 t.3AE
   t.3B7.3B9 t.20.313.300 t.20.313.301 t.20.313.342 v3 t.390 x2 v2 s2.1FD0 t.1F76 t.3AF x
   t.20.314.300 t.20.314.301 t.20.314.342 v3 t.3B0 v4 s2.1FE0 t.1F7A t.3CD t.1FE5 t.20.308.300
   t.20.308.301 t.60 x2 t.1F7C.3B9 t.3C9.3B9 t.3CE.3B9 x v t.1FF6.3B9 t.1F78 t.3CC t.1F7C t.3CE
   t.3C9.3B9 t.20.301 t.20.314 x tB.20 i v2 x2 v t.2010 v5 t.20.333 vC x3 v x7 t.20 v3
   t.2032.2032 t.2032.2032.2032 v t.2035.2035 t.2035.2035.2035 v4 t.21.21 v t.20.305 v8 t.3F.3F
   t.3F.21 t.21.3F vD t.2032.2032.2032.2032 v7 t.20 i x3 i xB t.30 t.69 x2 s6.34 t.2B t.2212
   t.3D s2.28 t.6E sA.30 t.2B t.2212 t.3D s2.28 x t.61 t.65 t.6F t.78 t.259 t.68 s4.6B t.70
   s2.73 x3 v8 t.72.73 v18 xF v21 xF t.61.2F.63 t.61.2F.73 t.63 t.B0.63 v t.63.2F.6F t.63.2F.75
   t.25B v t.B0.66 s2.67 t3.68 t.127 t2.69 t2.6C v t.6E t.6E.6F v2 s3.70 t2.72 v2 t.73.6D
   t.74.65.6C t.74.6D v t.7A v t.3C9 v t.7A v t.6B t.E5 s2.62 v t2.65 t.66 x t.6D t.6F s4.5D0
   t.69 v t.66.61.78 t.3C0 t2.3B3 t.3C0 t.2211 v4 t2.64 t.65 s2.69 v6 t.31.2044.37 t.31.2044.39
   t.31.2044.31.30 t.31.2044.33 t.32.2044.33 t.31.2044.35 t.32.2044.35 t.33.2044.35 t.34.2044.35
   t.31.2044.36 t.35.2044.36 t.31.2044.38 t.33.2044.38 t.35.2044.38 t.37.2044.38 t.31.2044 t.69
   t.69.69 t.69.69.69 t.69.76 t.76 t.76.69 t.76.69.69 t.76.69.69.69 t.69.78 t.78 t.78.69
   t.78.69.69 t.6C s2.63 t.6D t.69 t.69.69 t.69.69.69 t.69.76 t.76 t.76.69 t.76.69.69
   t.76.69.69.69 t.69.78 t.78 t.78.69 t.78.69.69 t.6C s2.63 t.6D v3 x v5 t.30.2044.33 v2 x4 v9C
   t.222B.222B t.222B.222B.222B v t.222E.222E t.222E.222E.222E vF8 s2.3008 vFC x19 vB x15 s9.31
   t.31.30 t.31.31 t.31.32 t.31.33 t.31.34 t.31.35 t.31.36 t.31.37 t.31.38 t.31.39 t.32.30
   t.28.31.29 t.28.32.29 t.28.33.29 t.28.34.29 t.28.35.29 t.28.36.29 t.28.37.29 t.28.38.29
   t.28.39.29 t.28.31.30.29 t.28.31.31.29 t.28.31.32.29 t.28.31.33.29 t.28.31.34.29
   t.28.31.35.29 t.28.31.36.29 t.28.31.37.29 t.28.31.38.29 t.28.31.39.29 t.28.32.30.29 x14
   t.28.61.29 t.28.62.29 t.28.63.29 t.28.64.29 t.28.65.29 t.28.66.29 t.28.67.29 t.28.68.29
   t.28.69.29 t.28.6A.29 t.28.6B.29 t.28.6C.29 t.28.6D.29 t.28.6E.29 t.28.6F.29 t.28.70.29
   t.28.71.29 t.28.72.29 t.28.73.29 t.28.74.29 t.28.75.29 t.28.76.29 t.28.77.29 t.28.78.29
   t.28.79.29 t.28.7A.29 s1A.61 s1A.61 t.30 v521 t.222B.222B.222B.222B v67 t.3A.3A.3D t.3D.3D
   t.3D.3D.3D v65 t.2ADD.338 v97 x2 v20 x v69 s30.2C30 v30 t.2C61 v t.26B t.1D7D t.27D v2 a6
   t.251 t.271 t.250 t.252 v t.2C73 v2 t.2C76 v6 t.6A t.76 s2.23F a64 v7 a4 v3 t.2CF3 v x5 v2D x
   v x5 v x2 v38 x7 t.2D61 v xE v18 x9 v7 x v7 x v7 x v7 x v7 x v7 x v7 x v7 x v7E x22 v1A x v4
   t.6BCD v53 t.9F9F xC t.4E00 t.4E28 t.4E36 t.4E3F t.4E59 t.4E85 t.4E8C t.4EA0 t.4EBA t.513F
   t.5165 t.516B t.5182 t.5196 t.51AB t.51E0 t.51F5 t.5200 t.529B t.52F9 t.5315 t.531A t.5338
   t.5341 t.535C t.5369 t.5382 t.53B6 t.53C8 t.53E3 t.56D7 t.571F t.58EB t.5902 t.590A t.5915
   t.5927 t.5973 t.5B50 t.5B80 t.5BF8 t.5C0F t.5C22 t.5C38 t.5C6E t.5C71 t.5DDB t.5DE5 t.5DF1
   t.5DFE t.5E72 t.5E7A t.5E7F t.5EF4 t.5EFE t.5F0B t.5F13 t.5F50 t.5F61 t.5F73 t.5FC3 t.6208
   t.6236 t.624B t.652F t.6534 t.6587 t.6597 t.65A4 t.65B9 t.65E0 t.65E5 t.66F0 t.6708 t.6728
   t.6B20 t.6B62 t.6B79 t.6BB3 t.6BCB t.6BD4 t.6BDB t.6C0F t.6C14 t.6C34 t.706B t.722A t.7236
   t.723B t.723F t.7247 t.7259 t.725B t.72AC t.7384 t.7389 t.74DC t.74E6 t.7518 t.751F t.7528
   t.7530 t.758B t.7592 t.7676 t.767D t.76AE t.76BF t.76EE t.77DB t.77E2 t.77F3 t.793A t.79B8
   t.79BE t.7A74 t.7ACB t.7AF9 t.7C73 t.7CF8 t.7F36 t.7F51 t.7F8A t.7FBD t.8001 t.800C t.8012
   t.8033 t.807F t.8089 t.81E3 t.81EA t.81F3 t.81FC t.820C t.821B t.821F t.826E t.8272 t.8278
   t.864D t.866B t.8840 t.884C t.8863 t.897E t.898B t.89D2 t.8A00 t.8C37 t.8C46 t.8C55 t.8C78
   t.8C9D t.8D64 t.8D70 t.8DB3 t.8EAB t.8ECA t.8F9B t.8FB0 t.8FB5 t.9091 t.9149 t.91C6 t.91CC
   t.91D1 t.9577 t.9580 t.961C t.96B6 t.96B9 t.96E8 t.9751 t.975E t.9762 t.9769 t.97CB t.97ED
   t.97F3 t.9801 t.98A8 t.98DB t.98DF t.9996 t.9999 t.99AC t.9AA8 t.9AD8 t.9ADF t.9B25 t.9B2F
   t.9B32 t.9B3C t.9B5A t.9CE5 t.9E75 t.9E7F t.9EA5 t.9EBB t.9EC3 t.9ECD t.9ED1 t.9EF9 t.9EFD
   t.9F0E t.9F13 t.9F20 t.9F3B t.9F4A t.9F52 t.9F8D t.9F9C t.9FA0 x2A t.20 v t.2E v33 t.3012 v
   t.5341 s2.5344 v5 x v56 x2 v2 t.20.3099 t.20.309A v2 t.3088.308A v5F t.30B3.30C8 x5 v2B x
   s2.1100 t.11AA t.1102 s2.11AC s3.1103 s6.11B0 t.111A s3.1106 t.1121 sA.1109 s15.1161 x
   s2.1114 s2.11C7 t.11CC t.11CE t.11D3 t.11D7 t.11D9 t.111C t.11DD t.11DF s2.111D t.1120
   s2.1122 t.1127 t.1129 s5.112B t.1132 t.1136 t.1140 t.1147 t.114C s2.11F1 s3.1157 s2.1184
   t.1188 s2.1191 t.1194 t.119E t.11A1 x v2 t.4E00 t.4E8C t.4E09 t.56DB t.4E0A t.4E2D t.4E0B
   t.7532 t.4E59 t.4E19 t.4E01 t.5929 t.5730 t.4EBA v44 xC v10 t.28.1100.29 t.28.1102.29
   t.28.1103.29 t.28.1105.29 t.28.1106.29 t.28.1107.29 t.28.1109.29 t.28.110B.29 t.28.110C.29
   t.28.110E.29 t.28.110F.29 t.28.1110.29 t.28.1111.29 t.28.1112.29 t.28.AC00.29 t.28.B098.29
   t.28.B2E4.29 t.28.B77C.29 t.28.B9C8.29 t.28.BC14.29 t.28.C0AC.29 t.28.C544.29 t.28.C790.29
   t.28.CC28.29 t.28.CE74.29 t.28.D0C0.29 t.28.D30C.29 t.28.D558.29 t.28.C8FC.29
   t.28.C624.C804.29 t.28.C624.D6C4.29 x t.28.4E00.29 t.28.4E8C.29 t.28.4E09.29 t.28.56DB.29
   t.28.4E94.29 t.28.516D.29 t.28.4E03.29 t.28.516B.29 t.28.4E5D.29 t.28.5341.29 t.28.6708.29
   t.28.706B.29 t.28.6C34.29 t.28.6728.29 t.28.91D1.29 t.28.571F.29 t.28.65E5.29 t.28.682A.29
   t.28.6709.29 t.28.793E.29 t.28.540D.29 t.28.7279.29 t.28.8CA1.29 t.28.795D.29 t.28.52B4.29
   t.28.4EE3.29 t.28.547C.29 t.28.5B66.29 t.28.76E3.29 t.28.4F01.29 t.28.8CC7.29 t.28.5354.29
   t.28.796D.29 t.28.4F11.29 t.28.81EA.29 t.28.81F3.29 t.554F t.5E7C t.6587 t.7B8F v8 t.70.74.65
   t.32.31 t.32.32 t.32.33 t.32.34 t.32.35 t.32.36 t.32.37 t.32.38 t.32.39 t.33.30 t.33.31
   t.33.32 t.33.33 t.33.34 t.33.35 t.1100 s2.1102 s3.1105 t.1109 s2.110B s5.110E t.AC00 t.B098
   t.B2E4 t.B77C t.B9C8 t.BC14 t.C0AC t.C544 t.C790 t.CC28 t.CE74 t.D0C0 t.D30C t.D558
   t.CC38.ACE0 t.C8FC.C758 t.C6B0 v t.4E00 t.4E8C t.4E09 t.56DB t.4E94 t.516D t.4E03 t.516B
   t.4E5D t.5341 t.6708 t.706B t.6C34 t.6728 t.91D1 t.571F t.65E5 t.682A t.6709 t.793E t.540D
   t.7279 t.8CA1 t.795D t.52B4 t.79D8 t.7537 t.5973 t.9069 t.512A t.5370 t.6CE8 t.9805 t.4F11
   t.5199 t.6B63 t.4E0A t.4E2D t.4E0B t.5DE6 t.53F3 t.533B t.5B97 t.5B66 t.76E3 t.4F01 t.8CC7
   t.5354 t.591C t.33.36 t.33.37 t.33.38 t.33.39 t.34.30 t.34.31 t.34.32 t.34.33 t.34.34 t.34.35
   t.34.36 t.34.37 t.34.38 t.34.39 t.35.30 t.31.6708 t.32.6708 t.33.6708 t.34.6708 t.35.6708
   t.36.6708 t.37.6708 t.38.6708 t.39.6708 t.31.30.6708 t.31.31.6708 t.31.32.6708 t.68.67
   t.65.72.67 t.65.76 t.6C.74.64 t.30A2 t.30A4 t.30A6 t.30A8 s2.30AA t.30AD t.30AF t.30B1 t.30B3
   t.30B5 t.30B7 t.30B9 t.30BB t.30BD t.30BF t.30C1 t.30C4 t.30C6 t.30C8 s6.30CA t.30D2 t.30D5
   t.30D8 t.30DB s5.30DE t.30E4 t.30E6 s6.30E8 s4.30EF t.4EE4.548C t.30A2.30D1.30FC.30C8
   t.30A2.30EB.30D5.30A1 t.30A2.30F3.30DA.30A2 t.30A2.30FC.30EB t.30A4.30CB.30F3.30B0
   t.30A4.30F3.30C1 t.30A6.30A9.30F3 t.30A8.30B9.30AF.30FC.30C9 t.30A8.30FC.30AB.30FC
   t.30AA.30F3.30B9 t.30AA.30FC.30E0 t.30AB.30A4.30EA t.30AB.30E9.30C3.30C8
   t.30AB.30ED.30EA.30FC t.30AC.30ED.30F3 t.30AC.30F3.30DE t.30AE.30AC t.30AE.30CB.30FC
   t.30AD.30E5.30EA.30FC t.30AE.30EB.30C0.30FC t.30AD.30ED t.30AD.30ED.30B0.30E9.30E0
   t.30AD.30ED.30E1.30FC.30C8.30EB t.30AD.30ED.30EF.30C3.30C8 t.30B0.30E9.30E0
   t.30B0.30E9.30E0.30C8.30F3 t.30AF.30EB.30BC.30A4.30ED t.30AF.30ED.30FC.30CD t.30B1.30FC.30B9
   t.30B3.30EB.30CA t.30B3.30FC.30DD t.30B5.30A4.30AF.30EB t.30B5.30F3.30C1.30FC.30E0
   t.30B7.30EA.30F3.30B0 t.30BB.30F3.30C1 t.30BB.30F3.30C8 t.30C0.30FC.30B9 t.30C7.30B7
   t.30C9.30EB t.30C8.30F3 t.30CA.30CE t.30CE.30C3.30C8 t.30CF.30A4.30C4
   t.30D1.30FC.30BB.30F3.30C8 t.30D1.30FC.30C4 t.30D0.30FC.30EC.30EB t.30D4.30A2.30B9.30C8.30EB
   t.30D4.30AF.30EB t.30D4.30B3 t.30D3.30EB t.30D5.30A1.30E9.30C3.30C9 t.30D5.30A3.30FC.30C8
   t.30D6.30C3.30B7.30A7.30EB t.30D5.30E9.30F3 t.30D8.30AF.30BF.30FC.30EB t.30DA.30BD
   t.30DA.30CB.30D2 t.30D8.30EB.30C4 t.30DA.30F3.30B9 t.30DA.30FC.30B8 t.30D9.30FC.30BF
   t.30DD.30A4.30F3.30C8 t.30DC.30EB.30C8 t.30DB.30F3 t.30DD.30F3.30C9 t.30DB.30FC.30EB
   t.30DB.30FC.30F3 t.30DE.30A4.30AF.30ED t.30DE.30A4.30EB t.30DE.30C3.30CF t.30DE.30EB.30AF
   t.30DE.30F3.30B7.30E7.30F3 t.30DF.30AF.30ED.30F3 t.30DF.30EA t.30DF.30EA.30D0.30FC.30EB
   t.30E1.30AC t.30E1.30AC.30C8.30F3 t.30E1.30FC.30C8.30EB t.30E4.30FC.30C9 t.30E4.30FC.30EB
   t.30E6.30A2.30F3 t.30EA.30C3.30C8.30EB t.30EA.30E9 t.30EB.30D4.30FC t.30EB.30FC.30D6.30EB
   t.30EC.30E0 t.30EC.30F3.30C8.30B2.30F3 t.30EF.30C3.30C8 t.30.70B9 t.31.70B9 t.32.70B9
   t.33.70B9 t.34.70B9 t.35.70B9 t.36.70B9 t.37.70B9 t.38.70B9 t.39.70B9 t.31.30.70B9
   t.31.31.70B9 t.31.32.70B9 t.31.33.70B9 t.31.34.70B9 t.31.35.70B9 t.31.36.70B9 t.31.37.70B9
   t.31.38.70B9 t.31.39.70B9 t.32.30.70B9 t.32.31.70B9 t.32.32.70B9 t.32.33.70B9 t.32.34.70B9
   t.68.70.61 t.64.61 t.61.75 t.62.61.72 t.6F.76 t.70.63 t.64.6D t.64.6D.32 t.64.6D.33 t.69.75
   t.5E73.6210 t.662D.548C t.5927.6B63 t.660E.6CBB t.682A.5F0F.4F1A.793E t.70.61 t.6E.61
   t.3BC.61 t.6D.61 t.6B.61 t.6B.62 t.6D.62 t.67.62 t.63.61.6C t.6B.63.61.6C t.70.66 t.6E.66
   t.3BC.66 t.3BC.67 t.6D.67 t.6B.67 t.68.7A t.6B.68.7A t.6D.68.7A t.67.68.7A t.74.68.7A
   t.3BC.6C t.6D.6C t.64.6C t.6B.6C t.66.6D t.6E.6D t.3BC.6D t.6D.6D t.63.6D t.6B.6D t.6D.6D.32
   t.63.6D.32 t.6D.32 t.6B.6D.32 t.6D.6D.33 t.63.6D.33 t.6D.33 t.6B.6D.33 t.6D.2215.73
   t.6D.2215.73.32 t.70.61 t.6B.70.61 t.6D.70.61 t.67.70.61 t.72.61.64 t.72.61.64.2215.73
   t.72.61.64.2215.73.32 t.70.73 t.6E.73 t.3BC.73 t.6D.73 t.70.76 t.6E.76 t.3BC.76 t.6D.76
   t.6B.76 t.6D.76 t.70.77 t.6E.77 t.3BC.77 t.6D.77 t.6B.77 t.6D.77 t.6B.3C9 t.6D.3C9 x t.62.71
   t.63.63 t.63.64 t.63.2215.6B.67 x t.64.62 t.67.79 t.68.61 t.68.70 t.69.6E t.6B.6B t.6B.6D
   t.6B.74 t.6C.6D t.6C.6E t.6C.6F.67 t.6C.78 t.6D.62 t.6D.69.6C t.6D.6F.6C t.70.68 x t.70.70.6D
   t.70.72 t.73.72 t.73.76 t.77.62 t.76.2215.6D t.61.2215.6D t.31.65E5 t.32.65E5 t.33.65E5
   t.34.65E5 t.35.65E5 t.36.65E5 t.37.65E5 t.38.65E5 t.39.65E5 t.31.30.65E5 t.31.31.65E5
   t.31.32.65E5 t.31.33.65E5 t.31.34.65E5 t.31.35.65E5 t.31.36.65E5 t.31.37.65E5 t.31.38.65E5
   t.31.39.65E5 t.32.30.65E5 t.32.31.65E5 t.32.32.65E5 t.32.33.65E5 t.32.34.65E5 t.32.35.65E5
   t.32.36.65E5 t.32.37.65E5 t.32.38.65E5 t.32.39.65E5 t.33.30.65E5 t.33.31.65E5 t.67.61.6C
   v708D x3 v37 x9 v15C x14 a2E v12 a1C t.44A t.44C v5A x8 v22 aE v2 a3E t.A76F v8 a4 t.1D79 aA
   v3 t.A78C v t.265 v2 a4 v2 a14 t.266 t.25C t.261 t.26C t.26A v t.29E t.287 t.29D t.AB53 a10
   t.A794 t.282 t.1D8E a4 x5 t.A7D1 v x v x v a4 x18 t.63 t.66 t.71 t.A7F6 v2 t.127 t.153 v33 x3
   vA x6 v38 x8 v46 x8 vC x6 v74 xB v1E x3 v4E x vB x4 v21 x v37 x9 vE x2 vA x2 v67 x18 v1C xA
   v6 x2 v6 x2 v6 x9 v7 x v7 x v2C t.A727 t.AB37 t.26B t.AB52 v9 t.28D v2 x4 s50.13A0 v2E x2 vA
   x6 v2BA4 xC v17 x4 v31 x2104 t.8C48 t.66F4 t.8ECA t.8CC8 t.6ED1 t.4E32 t.53E5 t2.9F9C t.5951
   t.91D1 t.5587 t.5948 t.61F6 t.7669 t.7F85 t.863F t.87BA t.88F8 t.908F t.6A02 t.6D1B t.70D9
   t.73DE t.843D t.916A t.99F1 t.4E82 t.5375 t.6B04 t.721B t.862D t.9E1E t.5D50 t.6FEB t.85CD
   t.8964 t.62C9 t.81D8 t.881F t.5ECA t.6717 t.6D6A t.72FC t.90CE t.4F86 t.51B7 t.52DE t.64C4
   t.6AD3 t.7210 t.76E7 t.8001 t.8606 t.865C t.8DEF t.9732 t.9B6F t.9DFA t.788C t.797F t.7DA0
   t.83C9 t.9304 t.9E7F t.8AD6 t.58DF t.5F04 t.7C60 t.807E t.7262 t.78CA t.8CC2 t.96F7 t.58D8
   t.5C62 t.6A13 t.6DDA t.6F0F t.7D2F t.7E37 t.964B t.52D2 t.808B t.51DC t.51CC t.7A1C t.7DBE
   t.83F1 t.9675 t.8B80 t.62CF t.6A02 t.8AFE t.4E39 t.5BE7 t.6012 t.7387 t.7570 t.5317 t.78FB
   t.4FBF t.5FA9 t.4E0D t.6CCC t.6578 t.7D22 t.53C3 t.585E t.7701 t.8449 t.8AAA t.6BBA t.8FB0
   t.6C88 t.62FE t.82E5 t.63A0 t.7565 t.4EAE t.5169 t.51C9 t.6881 t.7CE7 t.826F t.8AD2 t.91CF
   t.52F5 t.5442 t.5973 t.5EEC t.65C5 t.6FFE t.792A t.95AD t.9A6A t.9E97 t.9ECE t.529B t.66C6
   t.6B77 t.8F62 t.5E74 t.6190 t.6200 t.649A t.6F23 t.7149 t.7489 t.79CA t.7DF4 t.806F t.8F26
   t.84EE t.9023 t.934A t.5217 t.52A3 t.54BD t.70C8 t.88C2 t.8AAA t.5EC9 t.5FF5 t.637B t.6BAE
   t.7C3E t.7375 t.4EE4 t.56F9 t.5BE7 t.5DBA t.601C t.73B2 t.7469 t.7F9A t.8046 t.9234 t.96F6
   t.9748 t.9818 t.4F8B t.79AE t.91B4 t.96B8 t.60E1 t.4E86 t.50DA t.5BEE t.5C3F t.6599 t.6A02
   t.71CE t.7642 t.84FC t.907C t.9F8D t.6688 t.962E t.5289 t.677B t.67F3 t.6D41 t.6E9C t.7409
   t.7559 t.786B t.7D10 t.985E t.516D t.622E t.9678 t.502B t.5D19 t.6DEA t.8F2A t.5F8B t.6144
   t.6817 t.7387 t.9686 t.5229 t.540F t.5C65 t.6613 t.674E t.68A8 t.6CE5 t.7406 t.75E2 t.7F79
   t.88CF t.88E1 t.91CC t.96E2 t.533F t.6EBA t.541D t.71D0 t.7498 t.85FA t.96A3 t.9C57 t.9E9F
   t.6797 t.6DCB t.81E8 t.7ACB t.7B20 t.7C92 t.72C0 t.7099 t.8B58 t.4EC0 t.8336 t.523A t.5207
   t.5EA6 t.62D3 t.7CD6 t.5B85 t.6D1E t.66B4 t.8F3B t.884C t.964D t.898B t.5ED3 t.5140 t.55C0 v2
   t.585A v t.6674 v2 t.51DE t.732A t.76CA t.793C t.795E t.7965 t.798F t.9756 t.7CBE t.7FBD v
   t.8612 v t.8AF8 v2 t.9038 t.90FD v3 t.98EF t.98FC t.9928 t.9DB4 t.90DE t.96B7 t.4FAE t.50E7
   t.514D t.52C9 t.52E4 t.5351 t.559D t.5606 t.5668 t.5840 t.58A8 t.5C64 t.5C6E t.6094 t.6168
   t.618E t.61F2 t.654F t.65E2 t.6691 t.6885 t.6D77 t.6E1A t.6F22 t.716E t.722B t.7422 t.7891
   t.793E t.7949 t.7948 t.7950 t.7956 t.795D s2.798D t.7A40 t.7A81 t.7BC0 t.7DF4 t.7E09 t.7E41
   t.7F72 t.8005 t.81ED t2.8279 t.8457 t.8910 t.8996 t.8B01 t.8B39 t.8CD3 t.8D08 t.8FB6 t.9038
   t.96E3 t.97FF t.983B t.6075 t.242EE t.8218 x2 t.4E26 t.51B5 t.5168 t.4F80 t.5145 t.5180
   t.52C7 t.52FA t.559D t.5555 t.5599 t.55E2 t.585A t.58B3 t.5944 t.5954 t.5A62 t.5B28 t.5ED2
   t.5ED9 t.5F69 t.5FAD t.60D8 t.614E t.6108 t.618E t.6160 t.61F2 t.6234 t.63C4 t.641C t.6452
   t.6556 t.6674 t.6717 t.671B t.6756 t.6B79 t.6BBA t.6D41 t.6EDB t.6ECB t.6F22 t.701E t.716E
   t.77A7 t.7235 t.72AF t.732A t.7471 t.7506 t.753B t.761D t.761F t.76CA t.76DB t.76F4 t.774A
   t.7740 t.78CC t.7AB1 t.7BC0 t.7C7B t.7D5B t.7DF4 t.7F3E t.8005 t.8352 t.83EF t.8779 t.8941
   t.8986 t.8996 t.8ABF t.8AF8 t.8ACB t.8B01 t.8AFE t.8AED t.8B39 t.8B8A t.8D08 t.8F38 t.9072
   t.9199 t.9276 t.967C t.96E3 t.9756 t.97DB t.97FF t.980B t.983B t.9B12 t.9F9C t.2284A t.22844
   t.233D5 t.3B9D t.4018 t.4039 t.25249 t.25CD0 t.27ED3 t.9F43 t.9F8E x26 t.66.66 t.66.69
   t.66.6C t.66.66.69 t.66.66.6C t2.73.74 xC t.574.576 t.574.565 t.574.56B t.57E.576 t.574.56D
   x5 t.5D9.5B4 v t.5F2.5B7 t.5E2 t.5D0 s2.5D3 s3.5DB t.5E8 t.5EA t.2B t.5E9.5C1 t.5E9.5C2
   t.5E9.5BC.5C1 t.5E9.5BC.5C2 t.5D0.5B7 t.5D0.5B8 t.5D0.5BC t.5D1.5BC t.5D2.5BC t.5D3.5BC
   t.5D4.5BC t.5D5.5BC t.5D6.5BC x t.5D8.5BC t.5D9.5BC t.5DA.5BC t.5DB.5BC t.5DC.5BC x t.5DE.5BC
   x t.5E0.5BC t.5E1.5BC x t.5E3.5BC t.5E4.5BC x t.5E6.5BC t.5E7.5BC t.5E8.5BC t.5E9.5BC
   t.5EA.5BC t.5D5.5B9 t.5D1.5BF t.5DB.5BF t.5E4.5BF t.5D0.5DC t2.671 t4.67B t4.67E t4.680
   t4.67A t4.67F t4.679 t4.6A4 t4.6A6 t4.684 t4.683 t4.686 t4.687 t2.68D t2.68C t2.68E t2.688
   t2.698 t2.691 t4.6A9 t4.6AF t4.6B3 t4.6B1 t2.6BA t4.6BB t2.6C0 t4.6C1 t4.6BE t2.6D2 t2.6D3
   v11 x10 t4.6AD t2.6C7 t2.6C6 t2.6C8 t.6C7.674 t2.6CB t2.6C5 t2.6C9 t4.6D0 t2.649 t2.626.627
   t2.626.6D5 t2.626.648 t2.626.6C7 t2.626.6C6 t2.626.6C8 t3.626.6D0 t3.626.649 t4.6CC t.626.62C
   t.626.62D t.626.645 t.626.649 t.626.64A t.628.62C t.628.62D t.628.62E t.628.645 t.628.649
   t.628.64A t.62A.62C t.62A.62D t.62A.62E t.62A.645 t.62A.649 t.62A.64A t.62B.62C t.62B.645
   t.62B.649 t.62B.64A t.62C.62D t.62C.645 t.62D.62C t.62D.645 t.62E.62C t.62E.62D t.62E.645
   t.633.62C t.633.62D t.633.62E t.633.645 t.635.62D t.635.645 t.636.62C t.636.62D t.636.62E
   t.636.645 t.637.62D t.637.645 t.638.645 t.639.62C t.639.645 t.63A.62C t.63A.645 t.641.62C
   t.641.62D t.641.62E t.641.645 t.641.649 t.641.64A t.642.62D t.642.645 t.642.649 t.642.64A
   t.643.627 t.643.62C t.643.62D t.643.62E t.643.644 t.643.645 t.643.649 t.643.64A t.644.62C
   t.644.62D t.644.62E t.644.645 t.644.649 t.644.64A t.645.62C t.645.62D t.645.62E t.645.645
   t.645.649 t.645.64A t.646.62C t.646.62D t.646.62E t.646.645 t.646.649 t.646.64A t.647.62C
   t.647.645 t.647.649 t.647.64A t.64A.62C t.64A.62D t.64A.62E t.64A.645 t.64A.649 t.64A.64A
   t.630.670 t.631.670 t.649.670 t.20.64C.651 t.20.64D.651 t.20.64E.651 t.20.64F.651
   t.20.650.651 t.20.651.670 t.626.631 t.626.632 t.626.645 t.626.646 t.626.649 t.626.64A
   t.628.631 t.628.632 t.628.645 t.628.646 t.628.649 t.628.64A t.62A.631 t.62A.632 t.62A.645
   t.62A.646 t.62A.649 t.62A.64A t.62B.631 t.62B.632 t.62B.645 t.62B.646 t.62B.649 t.62B.64A
   t.641.649 t.641.64A t.642.649 t.642.64A t.643.627 t.643.644 t.643.645 t.643.649 t.643.64A
   t.644.645 t.644.649 t.644.64A t.645.627 t.645.645 t.646.631 t.646.632 t.646.645 t.646.646
   t.646.649 t.646.64A t.649.670 t.64A.631 t.64A.632 t.64A.645 t.64A.646 t.64A.649 t.64A.64A
   t.626.62C t.626.62D t.626.62E t.626.645 t.626.647 t.628.62C t.628.62D t.628.62E t.628.645
   t.628.647 t.62A.62C t.62A.62D t.62A.62E t.62A.645 t.62A.647 t.62B.645 t.62C.62D t.62C.645
   t.62D.62C t.62D.645 t.62E.62C t.62E.645 t.633.62C t.633.62D t.633.62E t.633.645 t.635.62D
   t.635.62E t.635.645 t.636.62C t.636.62D t.636.62E t.636.645 t.637.62D t.638.645 t.639.62C
   t.639.645 t.63A.62C t.63A.645 t.641.62C t.641.62D t.641.62E t.641.645 t.642.62D t.642.645
   t.643.62C t.643.62D t.643.62E t.643.644 t.643.645 t.644.62C t.644.62D t.644.62E t.644.645
   t.644.647 t.645.62C t.645.62D t.645.62E t.645.645 t.646.62C t.646.62D t.646.62E t.646.645
   t.646.647 t.647.62C t.647.645 t.647.670 t.64A.62C t.64A.62D t.64A.62E t.64A.645 t.64A.647
   t.626.645 t.626.647 t.628.645 t.628.647 t.62A.645 t.62A.647 t.62B.645 t.62B.647 t.633.645
   t.633.647 t.634.645 t.634.647 t.643.644 t.643.645 t.644.645 t.646.645 t.646.647 t.64A.645
   t.64A.647 t.640.64E.651 t.640.64F.651 t.640.650.651 t.637.649 t.637.64A t.639.649 t.639.64A
   t.63A.649 t.63A.64A t.633.649 t.633.64A t.634.649 t.634.64A t.62D.649 t.62D.64A t.62C.649
   t.62C.64A t.62E.649 t.62E.64A t.635.649 t.635.64A t.636.649 t.636.64A t.634.62C t.634.62D
   t.634.62E t.634.645 t.634.631 t.633.631 t.635.631 t.636.631 t.637.649 t.637.64A t.639.649
   t.639.64A t.63A.649 t.63A.64A t.633.649 t.633.64A t.634.649 t.634.64A t.62D.649 t.62D.64A
   t.62C.649 t.62C.64A t.62E.649 t.62E.64A t.635.649 t.635.64A t.636.649 t.636.64A t.634.62C
   t.634.62D t.634.62E t.634.645 t.634.631 t.633.631 t.635.631 t.636.631 t.634.62C t.634.62D
   t.634.62E t.634.645 t.633.647 t.634.647 t.637.645 t.633.62C t.633.62D t.633.62E t.634.62C
   t.634.62D t.634.62E t.637.645 t.638.645 t2.627.64B v12 t.62A.62C.645 t2.62A.62D.62C
   t.62A.62D.645 t.62A.62E.645 t.62A.645.62C t.62A.645.62D t.62A.645.62E t2.62C.645.62D
   t.62D.645.64A t.62D.645.649 t.633.62D.62C t.633.62C.62D t.633.62C.649 t2.633.645.62D
   t.633.645.62C t2.633.645.645 t2.635.62D.62D t.635.645.645 t2.634.62D.645 t.634.62C.64A
   t2.634.645.62E t2.634.645.645 t.636.62D.649 t2.636.62E.645 t2.637.645.62D t.637.645.645
   t.637.645.64A t.639.62C.645 t2.639.645.645 t.639.645.649 t.63A.645.645 t.63A.645.64A
   t.63A.645.649 t2.641.62E.645 t.642.645.62D t.642.645.645 t.644.62D.645 t.644.62D.64A
   t.644.62D.649 t2.644.62C.62C t2.644.62E.645 t2.644.645.62D t.645.62D.62C t.645.62D.645
   t.645.62D.64A t.645.62C.62D t.645.62C.645 t.645.62E.62C t.645.62E.645 x2 t.645.62C.62E
   t.647.645.62C t.647.645.645 t.646.62D.645 t.646.62D.649 t2.646.62C.645 t.646.62C.649
   t.646.645.64A t.646.645.649 t2.64A.645.645 t.628.62E.64A t.62A.62C.64A t.62A.62C.649
   t.62A.62E.64A t.62A.62E.649 t.62A.645.64A t.62A.645.649 t.62C.645.64A t.62C.62D.649
   t.62C.645.649 t.633.62E.649 t.635.62D.64A t.634.62D.64A t.636.62D.64A t.644.62C.64A
   t.644.645.64A t.64A.62D.64A t.64A.62C.64A t.64A.645.64A t.645.645.64A t.642.645.64A
   t.646.62D.64A t.642.645.62D t.644.62D.645 t.639.645.64A t.643.645.64A t.646.62C.62D
   t.645.62E.64A t.644.62C.645 t.643.645.645 t.644.62C.645 t.646.62C.62D t.62C.62D.64A
   t.62D.62C.64A t.645.62C.64A t.641.645.64A t.628.62D.64A t.643.645.645 t.639.62C.645
   t.635.645.645 t.633.62E.64A t.646.62C.64A x7 v x20 t.635.644.6D2 t.642.644.6D2
   t.627.644.644.647 t.627.643.628.631 t.645.62D.645.62F t.635.644.639.645 t.631.633.648.644
   t.639.644.64A.647 t.648.633.644.645 t.635.644.649
   t.635.644.649.20.627.644.644.647.20.639.644.64A.647.20.648.633.644.645
   t.62C.644.20.62C.644.627.644.647 t.631.6CC.627.644 v3 i10 t.2C t.3001 x s2.3A t.21 t.3F
   s2.3016 x7 v10 x t.2014 t.2013 t2.5F s2.28 t.7B t.7D s2.3014 s2.3010 s2.300A s2.3008 s4.300C
   v2 t.5B t.5D t4.20.305 t3.5F t.2C t.3001 x2 t.3B t.3A t.3F t.21 t.2014 s2.28 t.7B t.7D
   s2.3014 t.23 t.26 s2.2A t.2D t.3C t.3E t.3D x t.5C s2.24 t.40 x4 t.20.64B t.640.64B t.20.64C
   v t.20.64D x t.20.64E t.640.64E t.20.64F t.640.64F t.20.650 t.640.650 t.20.651 t.640.651
   t.20.652 t.640.652 s2.621 s2.622 s2.623 s2.624 s2.625 t3.626 t2.627 t4.628 t2.629 t4.62A
   t4.62B t4.62C t4.62D t4.62E t2.62F t2.630 t2.631 t2.632 t4.633 t4.634 t4.635 t4.636 t4.637
   t4.638 t4.639 t4.63A t4.641 t4.642 t4.643 t4.644 t4.645 t4.646 t4.647 t2.648 t2.649 t4.64A
   t2.644.622 t2.644.623 t2.644.625 t2.644.627 x2 i x s20.21 s1A.61 s24.5B s2.2985 t.2E s2.300C
   t.3001 t.30FB t.30F2 t.30A1 t.30A3 t.30A5 t.30A7 t.30A9 t.30E3 t.30E5 t.30E7 t.30C3 t.30FC
   t.30A2 t.30A4 t.30A6 t.30A8 s2.30AA t.30AD t.30AF t.30B1 t.30B3 t.30B5 t.30B7 t.30B9 t.30BB
   t.30BD t.30BF t.30C1 t.30C4 t.30C6 t.30C8 s6.30CA t.30D2 t.30D5 t.30D8 t.30DB s5.30DE t.30E4
   t.30E6 s6.30E8 t.30EF t.30F3 s2.3099 x s2.1100 t.11AA t.1102 s2.11AC s3.1103 s6.11B0 t.111A
   s3.1106 t.1121 sA.1109 x3 s6.1161 x2 s6.1167 x2 s6.116D x2 s3.1173 x3 s2.A2 t.AC t.20.304
   t.A6 t.A5 t.20A9 x t.2502 s4.2190 t.25A0 t.25CB x11 vC x v1A x v13 x v2 x vF x2 vE x22 v7B x5
   v3 x4 v2D x3 v58 x vD x3 v x2F v2E x82 v1D x3 v31 xF v1C x4 v24 x9 v1E x5 v2B x5 v1E x v25 x4
   vE x2A s28.10428 v76 x2 vA x6 s24.104D8 x4 v24 x4 v28 x8 v34 xB v sB.10597 x sF.105A3 x
   s7.105B3 x s2.105BB x vB x vF x v7 x v2 x43 v137 x9 v16 xA v8 x18 v s2.2D0 t.E6 t.299 t.253 x
   t.2A3 t.AB66 t.2A5 t.2A4 s2.256 t.1D91 t.258 t.25E t.2A9 t.264 t.262 t.260 t.29B t.127 t.29C
   t.267 t.284 s2.2AA t.26C t.1DF04 t.A78E t.26E t.1DF05 t.28E t.1DF06 t.F8 s2.276 t.71 t.27A
   t.1DF08 s2.27D t.280 t.2A8 t.2A6 t.AB67 t.2A7 t.288 t.2C71 x t.28F s2.2A1 t.298 s3.1C0
   t.1DF0A t.1DF1E x45 v6 x2 v x v2C x v2 x3 v x2 v17 x v48 x8 v9 x30 v13 x v2 x5 v21 x3 v1B x5
   v x40 v38 x4 v14 x2 v32 x v2 x5 v8 x v3 x v1D x2 v3 x4 vA x7 v9 x7 v40 x20 v27 x4 vC x9 v36
   x3 v1D x2 v1B x5 v1A x7 v4 xC v7 x50 v49 x37 s33.10CC0 xD v33 x7 v2E x8 vA x126 v1F x v2A x
   v3 x2 v2 x4B v2B x8 v2A x16 v1A x26 v1C x14 v17 x9 v4E x4 v24 x9 v3E x v5 xD v19 x7 vA x6 v35
   x v12 x8 v27 x9 v60 x v14 xB v12 x v2F x3E v7 x v x v4 x vF x vB x6 v3B x5 vA x6 v4 x v8 x2
   v2 x2 v16 x v7 x v2 x v5 x vA x2 v2 x2 v3 x2 v x6 v x5 v7 x2 v7 x3 v5 x8B v5C x v5 x1E v48 x8
   vA xA6 v36 x2 v26 x22 v45 xB vA x6 vD x13 v3A x6 vA x36 v1B x2 vF x4 v17 xB9 v3C x64
   s20.118C0 v33 xC v8 x2 v x2 v8 x v2 x v1E x v2 x2 vC x9 vA x46 v8 x2 v2E x2 vB x1B v48 x8 v53
   xD v49 x7 vA xF6 v9 x v2D x vE xA v1D x3 v20 x2 v16 x vE x49 v7 x v2 x v2C x3 v x v2 x v9 x8
   vA x6 v6 x v2 x v25 x v2 x v6 x7 vA x136 v19 x7 v11 x v29 x3 v1C x56 v xF v32 xD v39B x66 v6F
   x v5 xB vC4 xA4C v63 xD v430 x10 v16 xFAA v247 x21B9 v239 x7 v1F x vA x4 v51 x vA x6 v1E x2
   v6 xA v46 xA vA x v7 x v15 x5 v13 x2B0 s20.16E60 v3B x65 v4B x4 v39 x7 v11 x40 v5 xB v2 xE
   v17F8 x8 v4D6 x2A v9 x22E7 v4 x v7 x v2 x v123 xF v x1D v3 x2 v xE v4 x8 v18C x904 v6B x5 vD
   x3 v9 x7 vA x2 v4 i4 x125C v2E x2 v17 x9 v74 x3C vF6 xA v27 x2 v35 t.1D157.1D165
   t.1D158.1D165 t.1D158.1D165.1D16E t.1D158.1D165.1D16F t.1D158.1D165.1D170 t.1D158.1D165.1D171
   t.1D158.1D165.1D172 vE x8 v40 t.1D1B9.1D165 t.1D1BA.1D165 t.1D1B9.1D165.1D16E
   t.1D1BA.1D165.1D16E t.1D1B9.1D165.1D16F t.1D1BA.1D165.1D16F v2A x15 v46 x7A v14 xC v14 xC v57
   x9 v19 x87 s1A.61 s1A.61 s1A.61 s7.61 x s12.69 s1A.61 s1A.61 t.61 x s2.63 x2 t.67 x2 s2.6A x2
   s4.6E x s8.73 s4.61 x t.66 x s7.68 x sB.70 s1A.61 s1A.61 s2.61 x s4.64 x2 s8.6A x s7.73 x
   s1A.61 s2.61 x s4.64 x s5.69 x t.6F x3 s7.73 x s1A.61 s1A.61 s1A.61 s1A.61 s1A.61 s1A.61
   s1A.61 s1A.61 s1A.61 s1A.61 s1A.61 s1A.61 s1A.61 t.131 t.237 x2 s11.3B1 t.3B8 s7.3C3 t.2207
   s11.3B1 t2.3C3 s6.3C4 t.2202 t.3B5 t.3B8 t.3BA t.3C6 t.3C1 t.3C0 s11.3B1 t.3B8 s7.3C3 t.2207
   s11.3B1 t2.3C3 s6.3C4 t.2202 t.3B5 t.3B8 t.3BA t.3C6 t.3C1 t.3C0 s11.3B1 t.3B8 s7.3C3 t.2207
   s11.3B1 t2.3C3 s6.3C4 t.2202 t.3B5 t.3B8 t.3BA t.3C6 t.3C1 t.3C0 s11.3B1 t.3B8 s7.3C3 t.2207
   s11.3B1 t2.3C3 s6.3C4 t.2202 t.3B5 t.3B8 t.3BA t.3C6 t.3C1 t.3C0 s11.3B1 t.3B8 s7.3C3 t.2207
   s11.3B1 t2.3C3 s6.3C4 t.2202 t.3B5 t.3B8 t.3BA t.3C6 t.3C1 t.3C0 t2.3DD x2 sA.30 sA.30 sA.30
   sA.30 sA.30 v28C xF v5 x vF x450 v1F x6 v6 xD5 v7 x v11 x2 v7 x v2 x v5 x5 s9.430 s3.43A
   sB.43E t.44B s2.44D t.A689 t.4D9 t.456 t.458 t.4E9 t.4AF t.4CF s9.430 s2.43A s2.43E t.441
   s6.443 s2.44A t.491 t.456 t.455 t.45F t.4AB t.A651 t.4B1 x21 v x70 v2D x3 vE x2 vA x4 v2 x140
   v1F x11 v3A x5 v x1D0 v2A x2E6 v7 x v4 x v2 x vF x vC5 x2 v10 x29 s22.1E922 v2A x4 vA x4 v2
   x311 v44 x4C v3D xC2 s2.627 t.62C t.62F x t.648 t.632 t.62D t.637 t.64A s4.643 t.633 t.639
   t.641 t.635 t.642 t.631 t.634 s2.62A t.62E t.630 t.636 t.638 t.63A t.66E t.6BA t.6A1 t.66F x
   t.628 t.62C x t.647 x2 t.62D x t.64A s4.643 t.633 t.639 t.641 t.635 t.642 x t.634 s2.62A
   t.62E x t.636 x t.63A x6 t.62C x4 t.62D x t.64A x t.644 x t.646 t.633 t.639 x t.635 t.642 x
   t.634 x2 t.62E x t.636 x t.63A x t.6BA x t.66F x t.628 t.62C x t.647 x2 t.62D t.637 t.64A
   t.643 x s2.645 t.633 t.639 t.641 t.635 t.642 x t.634 s2.62A t.62E x t.636 t.638 t.63A t.66E x
   t.6A1 x s2.627 t.62C t.62F s2.647 t.632 t.62D t.637 t.64A x s3.644 t.633 t.639 t.641 t.635
   t.642 t.631 t.634 s2.62A t.62E t.630 t.636 t.638 t.63A x5 t.628 t.62C t.62F x t.648 t.632
   t.62D t.637 t.64A x s3.644 t.633 t.639 t.641 t.635 t.642 t.631 t.634 s2.62A t.62E t.630 t.636
   t.638 t.63A x34 v2 x10E v2C x4 v64 xC vF x2 vF x vF x v25 xB t.30.2C t.31.2C t.32.2C t.33.2C
   t.34.2C t.35.2C t.36.2C t.37.2C t.38.2C t.39.2C v5 t.28.61.29 t.28.62.29 t.28.63.29
   t.28.64.29 t.28.65.29 t.28.66.29 t.28.67.29 t.28.68.29 t.28.69.29 t.28.6A.29 t.28.6B.29
   t.28.6C.29 t.28.6D.29 t.28.6E.29 t.28.6F.29 t.28.70.29 t.28.71.29 t.28.72.29 t.28.73.29
   t.28.74.29 t.28.75.29 t.28.76.29 t.28.77.29 t.28.78.29 t.28.79.29 t.28.7A.29 t.3014.73.3015
   t.63 t.72 t.63.64 t.77.7A v s1A.61 t.68.76 t.6D.76 t.73.64 t.73.73 t.70.70.76 t.77.63 v1A
   t.6D.63 t.6D.64 t.6D.72 v23 t.64.6A v1D x38 v1A t.307B.304B t.30B3.30B3 t.30B5 xD t.624B
   t.5B57 t.53CC t.30C7 t.4E8C t.591A t.89E3 t.5929 t.4EA4 t.6620 t.7121 t.6599 t.524D t.5F8C
   t.518D t.65B0 t.521D t.7D42 t.751F t.8CA9 t.58F0 t.5439 t.6F14 t.6295 t.6355 t.4E00 t.4E09
   t.904A t.5DE6 t.4E2D t.53F3 t.6307 t.8D70 t.6253 t.7981 t.7A7A t.5408 t.6E80 t.6709 t.6708
   t.7533 t.5272 t.55B6 t.914D x4 t.3014.672C.3015 t.3014.4E09.3015 t.3014.4E8C.3015
   t.3014.5B89.3015 t.3014.70B9.3015 t.3014.6253.3015 t.3014.76D7.3015 t.3014.52DD.3015
   t.3014.6557.3015 x7 t.5F97 t.53EF xE v6 x9A v3D8 x4 v11 x3 vD x3 v77 x4 v5F x6 vC x4 v xF vC
   x4 v38 x8 vA x6 v28 x8 v1E x2 v2 x4E v154 xC vE x2 vD x3 v9 x7 v2E x v7 x8 vE x4 v9 x7 v9 x7
   v93 x v37 x25 sA.30 x406 vA6E0 x20 v103A x6 vDE x2 v1682 xE v1D31 xC1F t.4E3D t.4E38 t.4E41
   t.20122 t.4F60 t.4FAE t.4FBB t.5002 t.507A t.5099 t.50E7 t.50CF t.349E t.2063A t.514D t.5154
   t.5164 t.5177 t.2051C t.34B9 t.5167 t.518D t.2054B t.5197 t.51A4 t.4ECC t.51AC t.51B5 t.291DF
   t.51F5 t.5203 t.34DF t.523B t.5246 t.5272 t.5277 t.3515 t.52C7 t.52C9 t.52E4 t.52FA s2.5305
   t.5317 t.5349 t.5351 t.535A t.5373 t.537D t3.537F t.20A2C t.7070 t.53CA t.53DF t.20B63 t.53EB
   t.53F1 t.5406 t.549E t.5438 t.5448 t.5468 t.54A2 t.54F6 t.5510 t.5553 t.5563 t2.5584 t.5599
   t.55AB t.55B3 t.55C2 t.5716 t.5606 t.5717 t.5651 t.5674 t.5207 t.58EE t.57CE t.57F4 t.580D
   t.578B t.5832 t.5831 t.58AC t.214E4 t.58F2 t.58F7 t.5906 t.591A t.5922 t.5962 t.216A8 t.216EA
   t.59EC t.5A1B t.5A27 t.59D8 t.5A66 t.36EE x t.5B08 t2.5B3E t.219C8 t.5BC3 t.5BD8 t.5BE7
   t.5BF3 t.21B18 t.5BFF t.5C06 x t.5C22 t.3781 t.5C60 t.5C6E t.5CC0 t.5C8D t.21DE4 t.5D43
   t.21DE6 t.5D6E t.5D6B t.5D7C s2.5DE1 t.382F t.5DFD t.5E28 t.5E3D t.5E69 t.3862 t.22183 t.387C
   t.5EB0 t.5EB3 t.5EB6 t.5ECA t.2A392 t.5EFE t2.22331 t.8201 t2.5F22 t.38C7 t.232B8 t.261DA
   t.5F62 t.5F6B t.38E3 t.5F9A t.5FCD t.5FD7 t.5FF9 t.6081 t.393A t.391C t.6094 t.226D4 t.60C7
   t.6148 t.614C t.614E t.614C t.617A t.618E t.61B2 t.61A4 t.61AF t.61DE t.61F2 t.61F6 t.6210
   t.621B t.625D t.62B1 t.62D4 t.6350 t.22B0C t.633D t.62FC t.6368 t.6383 t.63E4 t.22BF1 t.6422
   t.63C5 t.63A9 t.3A2E t.6469 t.647E t.649D t.6477 t.3A6C t.654F t.656C t.2300A t.65E3 t.66F8
   t.6649 t.3B19 t.6691 t.3B08 t.3AE4 t.5192 t.5195 t.6700 t.669C t.80AD t.43D9 t.6717 t.671B
   t.6721 t.675E t.6753 t.233C3 t.3B49 t.67FA t.6785 t.6852 t.6885 t.2346D t.688E t.681F t.6914
   t.3B9D t.6942 t.69A3 t.69EA t.6AA8 t.236A3 t.6ADB t.3C18 t.6B21 t.238A7 t.6B54 t.3C4E t.6B72
   t.6B9F s2.6BBA t.23A8D t.21D0B t.23AFA t.6C4E t.23CBC t.6CBF t.6CCD t.6C67 t.6D16 t.6D3E
   t.6D77 t.6D41 t.6D69 t.6D78 t.6D85 t.23D1E t.6D34 t.6E2F t.6E6E t.3D33 t.6ECB t.6EC7 t.23ED1
   t.6DF9 t.6F6E t.23F5E t.23F8E t.6FC6 t.7039 t.701E t.701B t.3D96 t.704A t.707D t.7077 t.70AD
   t.20525 t.7145 t.24263 t.719C x t.7228 t.7235 t.7250 t.24608 t.7280 t.7295 t.24735 t.24814
   t.737A t.738B t.3EAC t.73A5 t2.3EB8 t.7447 t.745C t.7471 t.7485 t.74CA t.3F1B t.7524 t.24C36
   t.753E t.24C92 t.7570 t.2219F t.7610 t.24FA1 t.24FB8 t.25044 t.3FFC t.4008 t.76F4 t.250F3
   t.250F2 t.25119 t.25133 s2.771E t.771F t.774A t.4039 t.778B t.4046 t.4096 t.2541D t.784E
   t.788C t.78CC t.40E3 t.25626 t.7956 t.2569A t.256C5 t.798F t.79EB t.412F t.7A40 t.7A4A t.7A4F
   t.2597C t2.25AA7 x t.4202 t.25BAB t.7BC6 t.7BC9 t.4227 t.25C80 t.7CD2 t.42A0 t.7CE8 t.7CE3
   t.7D00 t.25F86 t.7D63 t.4301 t.7DC7 t.7E02 t.7E45 t.4334 t.26228 t.26247 t.4359 t.262D9
   t.7F7A t.2633E t.7F95 t.7FFA t.8005 t.264DA t.26523 t.8060 t.265A8 t.8070 t.2335F t.43D5
   t.80B2 t.8103 t.440B t.813E t.5AB5 t.267A7 t.267B5 t.23393 t.2339C t.8201 t.8204 t.8F9E
   t.446B t.8291 t.828B t.829D t.52B3 t.82B1 t.82B3 t.82BD t.82E6 t.26B3C t.82E5 t.831D t.8363
   t.83AD t.8323 t.83BD t.83E7 t.8457 t.8353 t.83CA t.83CC t.83DC t.26C36 t.26D6B t.26CD5 t.452B
   t.84F1 t.84F3 t.8516 t.273CA t.8564 t.26F2C t.455D t.4561 t.26FB1 t.270D2 t.456B t.8650
   t.865C t.8667 t.8669 t.86A9 t.8688 t.870E t.86E2 t.8779 t.8728 t.876B t.8786 x t.87E1 t.8801
   t.45F9 t.8860 t.8863 t.27667 t.88D7 t.88DE t.4635 t.88FA t.34BB t.278AE t.27966 t.46BE t.46C7
   t.8AA0 t.8AED t.8B8A t.8C55 t.27CA8 t.8CAB t.8CC1 t.8D1B t.8D77 t.27F2F t.20804 t.8DCB t.8DBC
   t.8DF0 t.208DE t.8ED4 t.8F38 t.285D2 t.285ED t.9094 t.90F1 t.9111 t.2872E t.911B t.9238
   s2.92D7 t.927C t.93F9 t.9415 t.28BFA t.958B t.4995 t.95B7 t.28D77 t.49E6 t.96C3 t.5DB2 t.9723
   t.29145 t.2921A t.4A6E t.4A76 t.97E0 t.2940A t.4AB2 t.29496 t2.980B t.9829 t.295B6 t.98E2
   t.4B33 t.9929 t.99A7 t.99C2 t.99FE t.4BCE t.29B30 t.9B12 t.9C40 t.9CFD t.4CCE t.4CED t.9D67
   t.2A0CE t.4CF8 t.2A105 t.2A20E t.2A291 t.9EBB t.4D56 t.9EF9 t.9EFE t.9F05 t.9F0F t.9F16
   t.9F3B t.2A600 x5E2 v134B x5 v1060 xADD50 iF0 x2FE10"

/-- The combining marks: `m`, and `v` for all other characters. -/
def markText : String :=
  "v300 m70 v113 m7 v107 m2D v m v m2 v m2 v m9 v40 mB v30 m15 v10 m v65 m7 v2 m6 v2 m2 v m4 v23
   m v1E m1D v59 mB v3A m9 v9 m v18 m4 v m9 v m3 v m7 v29 m5 v3A m8 v2A m18 v m21 v36 m3 v m12 v
   m7 vA m2 v1D m4 v37 m v m10 v9 m5 v6 m4 v18 m7 v37 m1D v17 m2 v3 m vB m4 v37 m v m12 v12 m4
   v14 mB v37 m v m1E v6 m4 v1C m v3B m12 v7 mF v1A m5 v37 m v m1A vA m4 v1B m3 v38 m v m1F v5
   m4 vD m11 v37 m2 v m10 v9 m vA m4 v1B m4 v45 m1C vC m2 v3D m v2 mB v8 m8 v62 m v2 m9 vB m8
   v48 m2 v1B m v m v m v4 m2 v31 m14 v m2 v5 m31 v8 m v64 m14 v17 m4 v4 m3 v m3 v2 m7 v3 m4 vD
   mC v m vA m4 v2BF m3 v3B2 mD v13 m3 v1D mE v12 mE v34 m20 v9 m3 v2B m3 v m v75 m2 v22 m v76
   m20 vD7 m7 v37 m2B v30 m55 v2F m11 v26 m9 vC m3 v1E mD v38 m16 v28 m17 v95 m3 v m15 v4 m v6 m
   v2 m3 vC6 m40 v2D0 m30 vBEF m3 v8D m v60 m20 v22A m6 v69 m2 v75D4 m4 v mA v20 m2 v50 m2 v110
   m v3 m v4 m v17 m5 v4 m4 v50 m2 v32 m1A v12 m12 vD m v26 m8 v19 m18 v21 m4 v2F mE v24 m v43
   m17 v3 m v8 m4 v2B m3 v32 m v m3 v2 m2 v5 m2 v m v29 m5 v5 mC vE2 m8 v m4 v4F2E m v2E1 m10
   v10 m10 v3CD m83 v60 m v95 mA v681 mF v28 m8 vA5 m6 v239 mC v17B m2 v50 m3 v46 mB v31 m4 v7A
   m3 v35 mF v29 m v2 m2 vA m4 v2D mB v7 mB v33 m3 v24 mF vF m2 v2C m vC m3 v30 mE v8 m4 v m2
   v5C mC v6 m v2 m3F v5F m11 v10 m5 v36 m2 v m12 v7 m6 v5 m9E v35 m12 v17 m v51 m14 vEB m12 v1B
   m24 v30 m11 v6A mD v65 m13 vFC mF vF5 mF v m v m2 v8D m10 v3 m1C v mA v28 m7 v m4 v8 m9 v mB
   v2E m10 v195 m11 v52 m6E v31 m15 v m9 v3A mE v15B m4 v9 m2 v m v30 mF v14FD m v6 mFB9 v26F0
   m5 v3B m7 v418 m v m42 v51 m1C v4C9D m2 v1261 m50 v215 m5 v3 m6 v8 m8 v2 m7 v1E m4 v94 m3
   v7BB m37 v4 m32 v8 m vE m v16 m465 v100 m30 v5F m71 v30 m7 v177 m12 v2C m4 v1FC m4 v3E0 m30
   v44 m7 vC17B5 mFF00 v20000"

def folding : Runs := .ofText foldText

def marks : Runs := .ofText markText

end MeteredDownload.Url.Domain
