import MeteredDownload.Text.Runs

/-!
# What characters are made of

Two tables of Unicode 15: the combining classes, by which the marks behind a letter are put in order,
and the characters that are made of two others.
-/
set_option autoImplicit false
namespace MeteredDownload.Text.Composition

/-- The combining classes: `k` with the class that a run has, `v` for class zero. -/
def classText : String :=
  "v300 k15.E6 k.E8 k4.DC k.E8 k.D8 k5.DC k2.CA k4.DC k2.CA kB.DC k5.1 k4.DC k8.E6 k.F0 k.E6
   k3.DC k3.E6 k2.DC v k3.E6 k4.DC k.E6 k.E8 k2.DC k.E6 k.E9 k2.EA k.E9 k2.EA k.E9 kD.E6 v113
   k5.E6 v109 k.DC k4.E6 k.DC k3.E6 k.DE k.DC k6.E6 k6.DC k2.E6 k.DC k2.E6 k.DE k.E4 k.E6 k.A
   k.B k.C k.D k.E k.F k.10 k.11 k.12 k2.13 k.14 k.15 k.16 v k.17 v k.18 k.19 v k.E6 k.DC v
   k9.12 v40 k8.E6 k.1E k.1F k.20 v30 k.1B k.1C k.1D k.1E k.1F k.20 k.21 k.22 k2.E6 k2.DC k5.E6
   k.DC k2.E6 k.DC v10 k.23 v65 k7.E6 v2 k4.E6 k.DC k.E6 v2 k2.E6 v k.DC k2.E6 k.DC v23 k.24 v1E
   k.E6 k.DC k2.E6 k.DC k2.E6 k3.DC k.E6 k2.DC k.E6 k.DC k3.E6 k.DC k.E6 k.DC k.E6 k.DC k.E6
   k.DC k4.E6 v9E k7.E6 k.DC k.E6 v9 k.DC v18 k4.E6 v k9.E6 v k3.E6 v k7.E6 v29 k5.DC v3A k.E6
   k3.DC k4.E6 v2A k5.E6 k5.DC kE.E6 v k.DC k2.E6 k.DC k2.E6 k.DC k3.E6 k3.DC k.1B k.1C k.1D
   k3.E6 k.DC k2.E6 k2.DC k5.E6 v3C k.7 v10 k.9 v3 k.E6 k.DC k2.E6 v67 k.7 v10 k.9 v30 k3.E6 v3B
   k2.7 vF k4.9 v6B k.7 v10 k3.9 v6C k.7 v10 k8.9 v78 k3.9 v6C k.7 v10 k8.9 k.54 k2.5B v64 k.7
   v10 k8.9 v66 k2.9 v10 k.9 v7C k5.9 v69 k2.67 k5.9 v9 k4.6B v6C k2.76 k.9 vD k4.7A v4C k2.DC
   v1B k.DC v k.DC v k.D8 v37 k.81 k.82 v k.84 v5 k4.82 v2 k.82 v k2.E6 k.9 v k2.E6 v3E k.DC v70
   k.7 v k2.9 v52 k.DC v2CF k3.E6 v3B4 kB.9 v15 k.9 v9D k.9 vA k3.E6 vC9 k.E4 v8F k.DE k.E6
   k5.DC vD7 k.E6 k.DC v47 k.9 v14 kA.E6 k.DC v30 k5.E6 k6.DC k2.E6 k.DC v k2.DC k2.E6 k2.DC
   k5.E6 k.DC k35.E6 v34 k.7 vF k.9 v26 k.E6 k.DC k7.E6 v36 k2.9 v3A k.7 vB kA.9 v3B k4.7 v95
   k3.E6 v k.1 k5.DC k2.E6 k4.DC k.E6 v k7.1 v4 k.DC v6 k.E6 v3 k2.E6 vC6 k2.E6 k.DC k7.E6 k.DC
   k2.E6 k.EA k.D6 k.DC k.CA k25.E6 k.E8 k2.E4 k.DC k.DA k.E6 k.E9 k.DC k.E6 k.DC v2D0 k2.E6
   k2.1 k4.E6 k3.1 k2.E6 v4 k.E6 v3 k2.1 k.E6 k.DC k.E6 k2.1 k4.DC k10.E6 vBEF k3.E6 v8D k.9 v60
   k20.E6 v22A k.DA k.E4 k.E8 k.DE k2.E0 v69 k2.8 v75D4 k.E6 v4 kA.E6 v20 k2.E6 v50 k2.E6 v114
   k.9 v25 k4.9 v94 k.9 v1B k12.E6 v39 k3.DC v25 kC.9 v54 k.7 vC k.9 vEF k.E6 v k2.E6 k.DC v2
   k2.E6 v5 k2.E6 v k.E6 v34 kB.9 vEC k3.9 v4F2E k.1A v301 k7.E6 k7.DC k2.E6 v3CD k83.DC v60
   k.DC v95 kA.E6 v68D k.DC v k.E6 v28 k.E6 k.1 k5.DC k.9 vA5 k.E6 k5.DC v239 kC.E6 v17B k2.E6
   v50 k3.DC v46 k2.DC k3.E6 k.DC k.E6 k4.DC v31 k.E6 k.DC k.E6 k.DC vC0 k.9 v29 k.9 vE k.9 v39
   k.9 k.7 v45 k3.E6 v30 k3.9 v3D k.7 v4C k.9 v9 k.7 v6A k.9 k.7 vB2 k.7 k6.9 v4B k2.7 v10 k3.9
   v16 k9A.E6 v42 k.9 v3 k.7 v17 k.E6 v63 k.9 k.7 vFB k.9 k.7 v7E k.9 v76 k.9 k.7 v73 k5.9 v109
   k.9 k.7 v102 k2.9 v4 k.7 v9C k.9 v53 k.9 v12 k9.9 v49 k.9 v1A5 k.9 v102 k.7 v k2.9 v51 k.9
   v1A9 k2.9 v4BAD k5.1 v3B k7.E6 v4B9 k10.6 v4C9E k.1 v14C6 k2.D8 k3.1 v3 k.E2 k5.D8 v8 k8.DC
   v2 k5.E6 k2.DC v1E k4.E6 v94 k3.E6 vDBB k30.E6 v5F k71.E6 v30 k7.E6 v177 k12.E6 v2C k4.E6
   v1FC k2.E8 k.DC k.E6 v3E0 k30.DC v44 k6.E6 k.7 vF16B5"

/-- The pairs: `t` with the two characters that one is made of, `v` for characters that are not. -/
def pairText : String :=
  "vC0 t.41.300 t.41.301 t.41.302 t.41.303 t.41.308 t.41.30A v t.43.327 t.45.300 t.45.301
   t.45.302 t.45.308 t.49.300 t.49.301 t.49.302 t.49.308 v t.4E.303 t.4F.300 t.4F.301 t.4F.302
   t.4F.303 t.4F.308 v2 t.55.300 t.55.301 t.55.302 t.55.308 t.59.301 v2 t.61.300 t.61.301
   t.61.302 t.61.303 t.61.308 t.61.30A v t.63.327 t.65.300 t.65.301 t.65.302 t.65.308 t.69.300
   t.69.301 t.69.302 t.69.308 v t.6E.303 t.6F.300 t.6F.301 t.6F.302 t.6F.303 t.6F.308 v2
   t.75.300 t.75.301 t.75.302 t.75.308 t.79.301 v t.79.308 t.41.304 t.61.304 t.41.306 t.61.306
   t.41.328 t.61.328 t.43.301 t.63.301 t.43.302 t.63.302 t.43.307 t.63.307 t.43.30C t.63.30C
   t.44.30C t.64.30C v2 t.45.304 t.65.304 t.45.306 t.65.306 t.45.307 t.65.307 t.45.328 t.65.328
   t.45.30C t.65.30C t.47.302 t.67.302 t.47.306 t.67.306 t.47.307 t.67.307 t.47.327 t.67.327
   t.48.302 t.68.302 v2 t.49.303 t.69.303 t.49.304 t.69.304 t.49.306 t.69.306 t.49.328 t.69.328
   t.49.307 v3 t.4A.302 t.6A.302 t.4B.327 t.6B.327 v t.4C.301 t.6C.301 t.4C.327 t.6C.327
   t.4C.30C t.6C.30C v4 t.4E.301 t.6E.301 t.4E.327 t.6E.327 t.4E.30C t.6E.30C v3 t.4F.304
   t.6F.304 t.4F.306 t.6F.306 t.4F.30B t.6F.30B v2 t.52.301 t.72.301 t.52.327 t.72.327 t.52.30C
   t.72.30C t.53.301 t.73.301 t.53.302 t.73.302 t.53.327 t.73.327 t.53.30C t.73.30C t.54.327
   t.74.327 t.54.30C t.74.30C v2 t.55.303 t.75.303 t.55.304 t.75.304 t.55.306 t.75.306 t.55.30A
   t.75.30A t.55.30B t.75.30B t.55.328 t.75.328 t.57.302 t.77.302 t.59.302 t.79.302 t.59.308
   t.5A.301 t.7A.301 t.5A.307 t.7A.307 t.5A.30C t.7A.30C v21 t.4F.31B t.6F.31B vD t.55.31B
   t.75.31B v1C t.41.30C t.61.30C t.49.30C t.69.30C t.4F.30C t.6F.30C t.55.30C t.75.30C t.DC.304
   t.FC.304 t.DC.301 t.FC.301 t.DC.30C t.FC.30C t.DC.300 t.FC.300 v t.C4.304 t.E4.304 t.226.304
   t.227.304 t.C6.304 t.E6.304 v2 t.47.30C t.67.30C t.4B.30C t.6B.30C t.4F.328 t.6F.328
   t.1EA.304 t.1EB.304 t.1B7.30C t.292.30C t.6A.30C v3 t.47.301 t.67.301 v2 t.4E.300 t.6E.300
   t.C5.301 t.E5.301 t.C6.301 t.E6.301 t.D8.301 t.F8.301 t.41.30F t.61.30F t.41.311 t.61.311
   t.45.30F t.65.30F t.45.311 t.65.311 t.49.30F t.69.30F t.49.311 t.69.311 t.4F.30F t.6F.30F
   t.4F.311 t.6F.311 t.52.30F t.72.30F t.52.311 t.72.311 t.55.30F t.75.30F t.55.311 t.75.311
   t.53.326 t.73.326 t.54.326 t.74.326 v2 t.48.30C t.68.30C v6 t.41.307 t.61.307 t.45.327
   t.65.327 t.D6.304 t.F6.304 t.D5.304 t.F5.304 t.4F.307 t.6F.307 t.22E.304 t.22F.304 t.59.304
   t.79.304 v151 t.A8.301 t.391.301 v t.395.301 t.397.301 t.399.301 v t.39F.301 v t.3A5.301
   t.3A9.301 t.3CA.301 v19 t.399.308 t.3A5.308 t.3B1.301 t.3B5.301 t.3B7.301 t.3B9.301 t.3CB.301
   v19 t.3B9.308 t.3C5.308 t.3BF.301 t.3C5.301 t.3C9.301 v4 t.3D2.301 t.3D2.308 v2B t.415.300
   t.415.308 v t.413.301 v3 t.406.308 v4 t.41A.301 t.418.300 t.423.306 vA t.418.306 v1F
   t.438.306 v16 t.435.300 t.435.308 v t.433.301 v3 t.456.308 v4 t.43A.301 t.438.300 t.443.306
   v17 t.474.30F t.475.30F v49 t.416.306 t.436.306 vD t.410.306 t.430.306 t.410.308 t.430.308 v2
   t.415.306 t.435.306 v2 t.4D8.308 t.4D9.308 t.416.308 t.436.308 t.417.308 t.437.308 v2
   t.418.304 t.438.304 t.418.308 t.438.308 t.41E.308 t.43E.308 v2 t.4E8.308 t.4E9.308 t.42D.308
   t.44D.308 t.423.304 t.443.304 t.423.308 t.443.308 t.423.30B t.443.30B t.427.308 t.447.308 v2
   t.42B.308 t.44B.308 v128 t.627.653 t.627.654 t.648.654 t.627.655 t.64A.654 v99 t.6D5.654 v
   t.6C1.654 v10 t.6D2.654 v255 t.928.93C v7 t.930.93C v2 t.933.93C v96 t.9C7.9BE t.9C7.9D7 v17B
   t.B47.B56 v2 t.B47.B3E t.B47.B57 v47 t.B92.BD7 v35 t.BC6.BBE t.BC7.BBE t.BC6.BD7 v7B
   t.C46.C56 v77 t.CBF.CD5 v6 t.CC6.CD5 t.CC6.CD6 v t.CC6.CC2 t.CCA.CD5 v7E t.D46.D3E t.D47.D3E
   t.D46.D57 v8D t.DD9.DCA v t.DD9.DCF t.DDC.DCA t.DD9.DDF v247 t.1025.102E vADF t.1B05.1B35 v
   t.1B07.1B35 v t.1B09.1B35 v t.1B0B.1B35 v t.1B0D.1B35 v3 t.1B11.1B35 v28 t.1B3A.1B35 v
   t.1B3C.1B35 v2 t.1B3E.1B35 t.1B3F.1B35 v t.1B42.1B35 v2BC t.41.325 t.61.325 t.42.307 t.62.307
   t.42.323 t.62.323 t.42.331 t.62.331 t.C7.301 t.E7.301 t.44.307 t.64.307 t.44.323 t.64.323
   t.44.331 t.64.331 t.44.327 t.64.327 t.44.32D t.64.32D t.112.300 t.113.300 t.112.301 t.113.301
   t.45.32D t.65.32D t.45.330 t.65.330 t.228.306 t.229.306 t.46.307 t.66.307 t.47.304 t.67.304
   t.48.307 t.68.307 t.48.323 t.68.323 t.48.308 t.68.308 t.48.327 t.68.327 t.48.32E t.68.32E
   t.49.330 t.69.330 t.CF.301 t.EF.301 t.4B.301 t.6B.301 t.4B.323 t.6B.323 t.4B.331 t.6B.331
   t.4C.323 t.6C.323 t.1E36.304 t.1E37.304 t.4C.331 t.6C.331 t.4C.32D t.6C.32D t.4D.301 t.6D.301
   t.4D.307 t.6D.307 t.4D.323 t.6D.323 t.4E.307 t.6E.307 t.4E.323 t.6E.323 t.4E.331 t.6E.331
   t.4E.32D t.6E.32D t.D5.301 t.F5.301 t.D5.308 t.F5.308 t.14C.300 t.14D.300 t.14C.301 t.14D.301
   t.50.301 t.70.301 t.50.307 t.70.307 t.52.307 t.72.307 t.52.323 t.72.323 t.1E5A.304 t.1E5B.304
   t.52.331 t.72.331 t.53.307 t.73.307 t.53.323 t.73.323 t.15A.307 t.15B.307 t.160.307 t.161.307
   t.1E62.307 t.1E63.307 t.54.307 t.74.307 t.54.323 t.74.323 t.54.331 t.74.331 t.54.32D t.74.32D
   t.55.324 t.75.324 t.55.330 t.75.330 t.55.32D t.75.32D t.168.301 t.169.301 t.16A.308 t.16B.308
   t.56.303 t.76.303 t.56.323 t.76.323 t.57.300 t.77.300 t.57.301 t.77.301 t.57.308 t.77.308
   t.57.307 t.77.307 t.57.323 t.77.323 t.58.307 t.78.307 t.58.308 t.78.308 t.59.307 t.79.307
   t.5A.302 t.7A.302 t.5A.323 t.7A.323 t.5A.331 t.7A.331 t.68.331 t.74.308 t.77.30A t.79.30A v
   t.17F.307 v4 t.41.323 t.61.323 t.41.309 t.61.309 t.C2.301 t.E2.301 t.C2.300 t.E2.300 t.C2.309
   t.E2.309 t.C2.303 t.E2.303 t.1EA0.302 t.1EA1.302 t.102.301 t.103.301 t.102.300 t.103.300
   t.102.309 t.103.309 t.102.303 t.103.303 t.1EA0.306 t.1EA1.306 t.45.323 t.65.323 t.45.309
   t.65.309 t.45.303 t.65.303 t.CA.301 t.EA.301 t.CA.300 t.EA.300 t.CA.309 t.EA.309 t.CA.303
   t.EA.303 t.1EB8.302 t.1EB9.302 t.49.309 t.69.309 t.49.323 t.69.323 t.4F.323 t.6F.323 t.4F.309
   t.6F.309 t.D4.301 t.F4.301 t.D4.300 t.F4.300 t.D4.309 t.F4.309 t.D4.303 t.F4.303 t.1ECC.302
   t.1ECD.302 t.1A0.301 t.1A1.301 t.1A0.300 t.1A1.300 t.1A0.309 t.1A1.309 t.1A0.303 t.1A1.303
   t.1A0.323 t.1A1.323 t.55.323 t.75.323 t.55.309 t.75.309 t.1AF.301 t.1B0.301 t.1AF.300
   t.1B0.300 t.1AF.309 t.1B0.309 t.1AF.303 t.1B0.303 t.1AF.323 t.1B0.323 t.59.300 t.79.300
   t.59.323 t.79.323 t.59.309 t.79.309 t.59.303 t.79.303 v6 t.3B1.313 t.3B1.314 t.1F00.300
   t.1F01.300 t.1F00.301 t.1F01.301 t.1F00.342 t.1F01.342 t.391.313 t.391.314 t.1F08.300
   t.1F09.300 t.1F08.301 t.1F09.301 t.1F08.342 t.1F09.342 t.3B5.313 t.3B5.314 t.1F10.300
   t.1F11.300 t.1F10.301 t.1F11.301 v2 t.395.313 t.395.314 t.1F18.300 t.1F19.300 t.1F18.301
   t.1F19.301 v2 t.3B7.313 t.3B7.314 t.1F20.300 t.1F21.300 t.1F20.301 t.1F21.301 t.1F20.342
   t.1F21.342 t.397.313 t.397.314 t.1F28.300 t.1F29.300 t.1F28.301 t.1F29.301 t.1F28.342
   t.1F29.342 t.3B9.313 t.3B9.314 t.1F30.300 t.1F31.300 t.1F30.301 t.1F31.301 t.1F30.342
   t.1F31.342 t.399.313 t.399.314 t.1F38.300 t.1F39.300 t.1F38.301 t.1F39.301 t.1F38.342
   t.1F39.342 t.3BF.313 t.3BF.314 t.1F40.300 t.1F41.300 t.1F40.301 t.1F41.301 v2 t.39F.313
   t.39F.314 t.1F48.300 t.1F49.300 t.1F48.301 t.1F49.301 v2 t.3C5.313 t.3C5.314 t.1F50.300
   t.1F51.300 t.1F50.301 t.1F51.301 t.1F50.342 t.1F51.342 v t.3A5.314 v t.1F59.300 v t.1F59.301
   v t.1F59.342 t.3C9.313 t.3C9.314 t.1F60.300 t.1F61.300 t.1F60.301 t.1F61.301 t.1F60.342
   t.1F61.342 t.3A9.313 t.3A9.314 t.1F68.300 t.1F69.300 t.1F68.301 t.1F69.301 t.1F68.342
   t.1F69.342 t.3B1.300 v t.3B5.300 v t.3B7.300 v t.3B9.300 v t.3BF.300 v t.3C5.300 v t.3C9.300
   v3 t.1F00.345 t.1F01.345 t.1F02.345 t.1F03.345 t.1F04.345 t.1F05.345 t.1F06.345 t.1F07.345
   t.1F08.345 t.1F09.345 t.1F0A.345 t.1F0B.345 t.1F0C.345 t.1F0D.345 t.1F0E.345 t.1F0F.345
   t.1F20.345 t.1F21.345 t.1F22.345 t.1F23.345 t.1F24.345 t.1F25.345 t.1F26.345 t.1F27.345
   t.1F28.345 t.1F29.345 t.1F2A.345 t.1F2B.345 t.1F2C.345 t.1F2D.345 t.1F2E.345 t.1F2F.345
   t.1F60.345 t.1F61.345 t.1F62.345 t.1F63.345 t.1F64.345 t.1F65.345 t.1F66.345 t.1F67.345
   t.1F68.345 t.1F69.345 t.1F6A.345 t.1F6B.345 t.1F6C.345 t.1F6D.345 t.1F6E.345 t.1F6F.345
   t.3B1.306 t.3B1.304 t.1F70.345 t.3B1.345 t.3AC.345 v t.3B1.342 t.1FB6.345 t.391.306 t.391.304
   t.391.300 v t.391.345 v4 t.A8.342 t.1F74.345 t.3B7.345 t.3AE.345 v t.3B7.342 t.1FC6.345
   t.395.300 v t.397.300 v t.397.345 t.1FBF.300 t.1FBF.301 t.1FBF.342 t.3B9.306 t.3B9.304
   t.3CA.300 v3 t.3B9.342 t.3CA.342 t.399.306 t.399.304 t.399.300 v2 t.1FFE.300 t.1FFE.301
   t.1FFE.342 t.3C5.306 t.3C5.304 t.3CB.300 v t.3C1.313 t.3C1.314 t.3C5.342 t.3CB.342 t.3A5.306
   t.3A5.304 t.3A5.300 v t.3A1.314 t.A8.300 v4 t.1F7C.345 t.3C9.345 t.3CE.345 v t.3C9.342
   t.1FF6.345 t.39F.300 v t.3A9.300 v t.3A9.345 v19D t.2190.338 t.2192.338 v12 t.2194.338 v1E
   t.21D0.338 t.21D4.338 t.21D2.338 v34 t.2203.338 v4 t.2208.338 v2 t.220B.338 v17 t.2223.338 v
   t.2225.338 v1A t.223C.338 v2 t.2243.338 v2 t.2245.338 v t.2248.338 v16 t.3D.338 v t.2261.338
   vA t.224D.338 t.3C.338 t.3E.338 t.2264.338 t.2265.338 v2 t.2272.338 t.2273.338 v2 t.2276.338
   t.2277.338 v6 t.227A.338 t.227B.338 v2 t.2282.338 t.2283.338 v2 t.2286.338 t.2287.338 v22
   t.22A2.338 t.22A8.338 t.22A9.338 t.22AB.338 v30 t.227C.338 t.227D.338 t.2291.338 t.2292.338
   v6 t.22B2.338 t.22B3.338 t.22B4.338 t.22B5.338 vD5E t.304B.3099 v t.304D.3099 v t.304F.3099 v
   t.3051.3099 v t.3053.3099 v t.3055.3099 v t.3057.3099 v t.3059.3099 v t.305B.3099 v
   t.305D.3099 v t.305F.3099 v t.3061.3099 v2 t.3064.3099 v t.3066.3099 v t.3068.3099 v6
   t.306F.3099 t.306F.309A v t.3072.3099 t.3072.309A v t.3075.3099 t.3075.309A v t.3078.3099
   t.3078.309A v t.307B.3099 t.307B.309A v16 t.3046.3099 v9 t.309D.3099 vD t.30AB.3099 v
   t.30AD.3099 v t.30AF.3099 v t.30B1.3099 v t.30B3.3099 v t.30B5.3099 v t.30B7.3099 v
   t.30B9.3099 v t.30BB.3099 v t.30BD.3099 v t.30BF.3099 v t.30C1.3099 v2 t.30C4.3099 v
   t.30C6.3099 v t.30C8.3099 v6 t.30CF.3099 t.30CF.309A v t.30D2.3099 t.30D2.309A v t.30D5.3099
   t.30D5.309A v t.30D8.3099 t.30D8.309A v t.30DB.3099 t.30DB.309A v16 t.30A6.3099 v2
   t.30EF.3099 t.30F0.3099 t.30F1.3099 t.30F2.3099 v3 t.30FD.3099 vDF9B t.11099.110BA v
   t.1109B.110BA vE t.110A5.110BA v82 t.11131.11127 t.11132.11127 v21B t.11347.1133E
   t.11347.11357 v16E t.114B9.114BA t.114B9.114B0 v t.114B9.114BD vFB t.115B8.115AF
   t.115B9.115AF v37C t.11935.11930"

def classes : Runs := .ofText classText

def pairs : Runs := .ofText pairText

end MeteredDownload.Text.Composition
