/-!
# Character names from U+13200 to U+1EFFF

The names of these characters, in the encoding of `CharacterName`.
-/

namespace TextProtocol.Text.CharacterName

/-- The names of the characters from U+13200 to U+1EFFF. -/
def from13200 : String :=
  "@13200aEGYPTI!:_9PH N018.v9c2)6;V$G3)63$E4$E5$E6;X<I4=DdL00!i;V$G1$I;X8b9c20eU<d$G10$E1$E:l,2$E9
 c2=DaAgO001$E2b;Va(oDbEbFc7.h10[z!&!<aAd20$E!i!f$E5$E6!<aAd30$E!i[+a(oDc7.h4$s50.v1eP001$E2
 b3$E>G10b1eQ<db7eR001b2$E3.v>G10$E!&$E7b8b9c2$I!<eS001b2$E!z$E7.h1:~.v5b6;X8b9c2$I.v7.h3)6;V$G4$I
 eT00!i[+;X8$E9aAd1?S:l$E7b8b9c2$s3=D$E[+eU<d.v7.h.x)6[+!<aAd3=D$E!z$G4=DeV001[cbIc2$E!zb7.v<I10b1
 a%ebCc2.v!z$G20[cbIbJbKbLc!i[+,2$E9aAd30$E1$E2b[+;X<I40aAfW00!i[+!<aAd10$E!i!f[j;X8$E9c2:~$E5
 eX00!i!f.v5b6$E7b8aAfY001$E:l,2eZ001b2a(oDc3.v4$E5$E6$G1)6!s[cbIc6[cfAA<db7.v<I.x$s3=D@13430f$7?G
 p&1?GrINSERT )2$1&;Tj*J&;Tm*=ENDh,nENDu%9LAY *5oBEGIN%hG&+nEN$5EG&+@144.FANATOL([_9PH A<d$G10$E!&
 $G2$I$E7.h3^h4?S2b;V.v7.h5$s6$I[z7.h<N$I;X8$E9d100$E1$E2$E!f[z5.v6b7[z<I10.v!i;V$G2)6;V$G3)6;V$G4
 $s5$s6$s<N$I!<d20=D.v!z;X8b9aAd1)6;V$E7b8b9c2$I;X<I3$s4$s5$s6$I;X<I7$s8^h9:~[j!<aAe30^h.x^h3=D%ebC
 c!z[z7.h4$s5^h6:~[j,2$E9c7?S:l$G8?S2b3 RA %XRIjAc,p$E7.h9)63 E!,h,p!<d40$s10 BEG%)LOG=O!8
 uA )~LOG=O!8u!&$G2<L50$E!&;X<I6$s<N$Ib7d50!&$G.x$s30@16800zBAMUM+V&xSE-A NGKUE M,tkGBIEE ,t
 jP!cMF!cPIPAEMGBIEEfBArNAA M,tiSHUENSHUETkTITA M,tjNZA M,tiSHINDA PA NJInP!cPA NJI PIPAEMGBIEEfBA
 t>qBGBIEEkTU >qBAjNG!ZUg>qVEUXgNSUAEgVEUA)4AMkSEUNYAMhNTOQ(0hKEUKEUTNDAkNKINDIgSUUdNGKUENZEUM
 kLAPAQeET KUThNTAP MFAAjMAEKEUPhPASHAEgGHEUAERAEjPAM$:EhM!cNGGE(:TmNZUN MEUTjU YUQ NAEjGHE(:GHE(:
 mNTAP NTAAjSISAeMGBASAfEUNJOMNDEUQlOOMPUQhKAFAePA LEERAEWAlNDA LEERAEWAmPETd>qK(0iNIKAePUPdTUAEP
 fL(:PfSONJAMgTEUTEUWENjMAENYIgKETdNDA!ZGE(:TmKUOQeMOOMEUThSHUMeLOMMAEgFIRIeROMdKPOQeSOQdMAP PIEET
 j.fRAEgNTAPeSHOQ NSHUT YUMoNYIT &qGKE(:QpPA>kgNKA>khUNKNOWNh.)ENfMAESIfNJAMeMBANYIgNYETeTEUAENgSOT
 dPAAMeN.fEEg>qeNYIdKAQdN$:eVEEdLUcNENcAQdMBAQgB NSHUETgTU >qGBIEEmSIEEdET TUgLOM NTEUMjMBA MA)*E
 kKIEEMfYEURAEgMBA>khKAMdPEESHIgYAFU LEERAEWAn=yNSHUT NYAMoNTIEE(LUOQlDU NJAAiGHEUGHE(:MlPIT
 dTU NSIEEi)+T NJAQg(:QTUjMF!cTE(:QkBIT MBAAKETmNYI NTEUMjKEUPUQgGHEUGHENiKEUYEUXhLAANAEg$ZUMfVEUM
 eNGKINDI MVOPkGEU MBUjW(:TfSAKE(:hTAAMeMEUQe>5OQa )HmMFIYAQgSUEdMBEURIfONTIEENiNYAEMAEhPUNGAAM
 hMEUT .)EETlFEUXeMBUOQfF+qKE(:Mg&.NJEUAENAgUQAiLETdNGGAAMfSENe%-KIQdNGOMgC NGKUE >qBAlZAdYUM
 dW!ZKUOQi.)ENeDEUAEREEiGKAQfG$.AEgMBEEKEETiGBAYIfNYIR MK$ZAQ MEUNqTU MBITiMBEUMfPIRIEENhNDOMBU
 gMBAA CABBAGE-T!xrKEUSHE(:PkGHAPeKEUKAQgYU MUOMAEjNZEUMfMBUEeNSEUAENhMBITeYEUQeK$ZAQfAAdSEUXeNDIDA
 fTAASHAEhNJUEQfTITA YUEiSUAETf>5A$CNYAMmVEUXeNANSANAQi&.KEUAERIkNTAAdGGUONgLAPdMBIRIEENhGBASAQ
 hNTE%3BAiTEUTEUXh.)UMfFUEdNDEUTeS!bQfB%3eVE(:(0iMBERAEgRUcNJAEMf&adTIT(:PhNSUOT NGOMj%aEEgKETd>5
 eMAESIeBUAEMgLUcKUTdNJAMdGOMeWUPd>5EETgSOMd$weKUOP NKA>kmNSUNdDAMe&.NSIEEiYAAdNDAPeSHUEQeET,tgMBI
 cAEMBAf+~YIgKEUSEUXhMBEUXfKEUMeMBAA PICKETlYUWOQfNJEUXfMI+q(:e.fQeK$CLAWdFATIGUElNGAQdAQdLIQdPIN
 cENdTETfD MBUOeWAPdNJIdM,teNJIEEfLIEEeNJEUTeSHEEeGGAAMAEhYAMeWUAENfNGKUNfSHEEeNG&QfKE(:TMEUNkTEUT
 eSHE(:gNJAPeSUEdKETdYAEMMAEhKUOMeSAPdMFEUTfNDEUXf<^ERIgEUTeSE(:QgYENdNJE(:MhKEUOT MBUAElNGKEURIhTU
 cGHAAeNGKYEEgFEUFE(:TjNDEEeMGBOFUMhLE(:PgND,Y&qIdGBEUNgPUUTeMGBIEEfFOdLUMdNSIEEPgMBAAeKWAETfNYET
 eTEUAENgSOTdYUWOQfKEUMeRAEMeTEEEEfNGKE(:QiMFE(:gNSIEETgKEUPePIPcEUTAEgNYUEeLETdNGGAAMgMFIEEf.)WAEN
 hYUOMe)^dYUOPeNDAMdTEUMfSUAEeKUNdNGGEUXeKIEEgTUOTeMEUNeKUQdNSUMeTEUNeMAENJETh.)APfLEUMe>5OMfSHUT
 eJUEQfGHE(:gKUcR$COLDhTAEcOQdNYIdRIIdLEEEEfMEEEEebSUUdMUc.fIcEUXfKYEEeNUcSHUdNTEEePEEdNIcSHOQePUQ
 dMVOPeLOQdR$CMUCHiTIcNTUUeMBAA SEVENkSAQdFAAfE NDAPeTO,YMBEUMfLAPdVOMdLO,YPAAdSOMdRAQdNSHUOPfDUN
 eP(:eTAMdNGKAeKPEUXfWUOdS+qNGGE(:TiPAAMeTOOdKUOPeLOMdN.fEEfGOPe>qeNGKEUXeOQdSHUEfRIMGBAgNJEUXfPEEM
 eSAAd>5RAEhMGBAeGHEUXfNGKE(:MhJAEMLIhMAPdLOOTe.)EEEEgDIQeTA$CNTEUMkSETdPUMdNDAA SOFTN,bmGGUAESHA
 E NYAMpYIEEeGHEUNfTUAEeYE(:fPOcTUMAEfKE(:fSUAENfTE(:QgVE(:fWEUXeLAAMePUcTAAQeGHAAMAEhNGEUREUT
 i)+(:QhMGBENeBEEeNZAQdKOMeGBETeTUMdKUETeYAPdNYI CLEA!VlYITdMFEUQfNDIAQfPIEEQfYUEQeLE(:MgFUEdGBEUX
 fNGKUPfKETdMAEdNGKAAMIhGHETe*(NTUMePEUTeYEUMeNGGE(:gYI ?UkZUQePO,YMIEEeFUETeNAEdM(:eGHE(:gFU IeMVI
 dPUAQeNGKUMfKUTdPIETeNTAPeYE(:Tg.)UPfPA PEOPLEjFU C%VgOMdN%aeAbTOQdObIbLAQdPA PLURALjTAAbQdNDAA M
 Y HOUSEn.fQeYEUXeNG(:fYUAENeOQ SWIMM!FiC%9iUQbNdKEUXePEUXeNJEE EPOCHkPUEdWUEdF+qVEEdLUcMIcREUXdAE
 dNG(:TeAdSHOaQeFU REMEDYj&rPIcLOQdKOc$hcAaQdTEUdKIc&qd$wdFAQdGHOMgF (.UbKUc,^!xdTAEdNYId&NRIIbEE
 eMEEEEfTAAdNDAAdJAEMfMbSUUcHIIdIbEUXeKY+qETdNUAEcbJ(:fYOQdSHUd%7N$:ePEUXeNTEEeWUEdP+qRUcNIcREUX
 eKENdNGKWAENfGAeS*;P(:eFOMd)ZLIbOQdKOcMBENe:FdMAbObBAAeTETdKPAdSAMBAfVUEQ+:A40zMRO+VTAcNGIdYOcMIM
 d)x(,AbPHId$_IeHAOdDAIdCHUdKEAAEfOLc>qeNINd)BOObbROcSHIdTHEAeEAc)ZEbKOc)9bcHAIdRIcTEK+:A60k&S+:A6E
 jANDA;8qT!ZSA !DOZ=:cAZ=:cVZ=:cEZ=:cIZ=:cUZ=:cAWZ=:dUIZ=:d(4NGi&VUEXi+jUEZdAWXjUECbZbQbXcIUZ=:
 eMZ=:c]l&5,.%7)Z)B&[&xd)x%-N%!c&NHTAd:b&YN)O$:d,s<gG)OHTTAeT)OXAc*(D)O%zdZA+:AC0j&S+:AD0rBASSA VA
 H !DENNIe(.SEc*(MBEdYIEdGAHdDHIIeKPAHeJOcHWAHe)ZZOcGBUdDOcCEcUWUdTOc)xVUcYE(2)BWA+)fAb*SUbEEb
 bI+:AF0i.G_eiMID )ki!!-MID )kmH!G-%g)kx()+:B00tPAHAWH H&qG ;dKEEBbVdIBbVcAUBbVdUBbVcEBbVcAIBbVdOOB
 bVdAWBbVdUABbVdOBbVcIABbVdABbVcWBbVcAABbVk^ZVAUdNTSAUfLAUdHAUdNLAUeRAUdNKAUeQHAUeYAUdHLAUeMAUd%zU
 eN%zUfHNAUePLHAUfNTHAUeAUdAUcXAUdCAUn!8 CIM TUBdSOcKEScHAVeSUAMeHOMdTAUMn%iVOS THOMd$:B CEEB
 oCIM CHEEMjVOS THIABfFEEMiXYEEM NTXIVfR*;TOVdFAIBkVOS SEEVi$XJ SUABjVOS NRUAiIB YAMgXAUSeCIM TSO
 V ROG+:B50r&S+:B5B+Z$wSe%WSi,A$*Sn[fSi*<[fSq,ABILL%0SlRILL%0S+:B63q%iVOS LUBhXYOOeHLId,aD-STAGE HL
 IpZWJ THAJiHNUBeNQIGeXIABeNTUJeAVcTXHEEJ CEEVl$XJ TSEEBkTAUdLOSd)AdCIM HAIS L$yNTOG NTOGsCUAM TSHO
 OJlTXWVa CHWVjPUB DAWBiNRES TOS+:B7DrC)9$F:rEJgYEEGeLIScAUJeXYOOJfKOOdHAWJeMUASeTHOJdSABe&xBe$_B
 e&$dVAJdFAJdYAJdTSWBeKWMdVWJ+:E40z].!dMbSbVbWb!wUeZbKPcPbTbGbFbIbKbAbJbEbBbCbUbYUcLbQbHPcNYcXbDbOE
 cNbRbObAIcYq$nMbSbVbWb!wUeZbKPcPbTbGbFbIbKbAbJbEbBbCbUbYUcLbQbHPcNYcXbDbOEcNbRbObAIcYo&S+Z$w[K]N(A
 p%H!^,9!Ls$f,9!Lr(l,9!Lz].(u&y()j=WAIVAl+!$zOH+:F.FMIA=()B)xYI PAfPLAdM!k:^MAk*(VAbFAd:bYI TTAcA
 fTTAd+)dN!kYI NNAg:^NAkNN%fLAb%7HAbYAeTLHAeDLHAeTLHYAfDLHYAf<rYI KAfQAbGAdNG%f:^NGAl)DXAcGHAbHA
 eTSSAeDZZAeNY%fT$:eDZHAeYI T$:eDZHAhRE!L!HT$:n$:cSAdZ)D$:e<gDZAdYI TSAg,.ZAb,.ZAbSAe:^ZZAlZZ%7SYA
 f)ZAHcH)OBRIdSYIdDZYIeTEbSEdRTE+:F4Fk!>.YSONANT (p&?MIA=(NAS<.$6t%iASPIR$6kRE!L!HVOIC,>ASPIR$6y%qA
 aAbHHcNaGd*SWObbEaNaGdOEYdIaAaNaGdObEb)QNGdUaAaNaGdUbEIcNGdYaIcAEaEdERRd?XERRlERc?XERkAIcEIcAUcOU
 cNaGcUOGdYUIdOGbERdVWcIGcEAc%0GeUI+:F8Fn&n%tf*=%tj.&k!D)k-:l,2gRE!L!H)k-!i,pb8+:FE0zT!ZUT ?~
 vN,_U ?~u(XCHIN;S(_!8jITER&WzK!yAN&^ SCRIPT >U+:FF0zVIETNAME)L,9READ!P!8 CAcNHAY@188.FT!ZUT %IPON
 !Y-<d$G.x>X<N$I!<d10[[20[[30[[40[[50[[60[[70$s.x<L5$s6$I,2uK!yAN&^ SCRIPT _S-#,j,j,j(P!a!aaaaa
 a@1AFF0z>V!D&!N!:)k-2b!s@1AFF5,2gNAS<.!H)k?C@1AFFD,2@1B000x:^Ez=q!D:^YEzHENTAIG(s!DA-!i3bWOeI?B
 dU?CdE-:ldO-!i3dKA*V!<b10b1cKEeI*V,2dU=SdE*VdO-!i3bKIfSA*V,2dI*VdU*V,2dE?CdO=SeTA?BdI=SdU?BbTO
 eE*V!<dO*VbRAfNA*V!<dI=SbTEeU-!i3dE*VbKOeO?CeHA*V!<b10b1eI=SdU-!i3dE=SdO*V,2eMA=SdI=SdU?BdE-!iMA
 eO*VeYA?CbYOeU?BdO*VeRA?BdI=SdU*VdE?BdO*VeWA?CdI?CdE?BdO=SeN-MU-MO>iz=q!D:^WUz>V!D:^YIbEcWU@1B150
 z=q(=WIbEbO@1B164y>V(=WIbEbOcN@1B170xN,_U C$.AC!.-#,j,j,j!aaaa@1BC00rDUPLOY!:!DHbXbPbTbFbKbLbBbDbV
 bGbRbP Nd$5dF NdK MdR SdTHcSLO!:DHiDHcKKcSLO!:JhHLcLHcRHcMbNbJbSbM NdN MdJ MdS Jd$~!_k+5!_kJ:7
 aS IN:J!T!ozDUPLOY!:%Q:7a !uqM SdN SdJ SdS SdM N SfN M SfJ M SfS J SfJ S:7kNa SfS Ta RdPa RfT S
 bR SfWaHb RdS NbMdK R SfG R SfS Ka RfAbSLO!:OWiOAbbAOUdIbEbIEc+jIhUIcEEcSLO!:EHiRO(m([IkSLO!:EE
 i&VIgYEcUbEUcXWcU Nd&VUgRO(m([UkUHcSLO!:UhOOHcWbUcWAbObIbEIcOWdNAS!BUbObIbAh$vN%)ANbMjSLO!:ENcAN
 cONiVOCAL!XM@1BC70qAFFIX !n*>[7wMID *>[7v!p*>[7x%g,e[7tMID ,e[7t%_,e[7uATTACHE$5EC&Pg(3TO-%t[7
 uT!Z!YfILeE $JgI $JgT!Z:I$J@1BC80v%_%yfT$N%yl&uf&V&uk!_d%4g&UeWAVEe,e@1BC90n%g%yfT$N%yl&uf&V&uk!_
 d%4g&UeWAVEe,ei!R@1BC9Cp%i&O)trTHICK %Q)*C(1v!]!8l+i CHINOOK ()zSHORTH!T!L)2!D%9LAPo+3INU!P%9LAP
 s!% STEPjUP STEP@1CF00y?K^%_?;&?K_?%:xTSATA !c%:n^%NIZKO !c%:vNIZKO !c%:nSREDNE !c%:o!IO _J!c%:
 u_J!c%:pVYSOKO !c%:o^z]>;&?KPOVY)+]>;&?KVYSOKO]>;&?K^%_?(V?K_?%tyTSATA !c%to^%NIZKO !c%twNIZKO !c
 %toSREDNE !c%tp!IO _J!c%tv_J!c%tqVYSOKO !c%tp^z]>(V?KPOVY)+]>(V?KVYSOKO]>(V?KTSATA?;Mp^z?;M
 wST(T.A^zuPOVY)+?;MiT(TNOpVYSOKO?;Mq^z!h(TNOu^%VYSOKOoZELOeONcRAVNOfTI$_YAhBORZAYAhUDARKAgPOD!VTKA
 jLOMKAfKUP.BgACHKAgZEVOKfSKOBAfRAZSEKAhKRYZH !c%:@1CF30sTON!BR!ZE &kMRACHNOhSVETLOgTRESVETLO
 z+UNY:[&kZADERZHKAjDEMESTVENNY ZADERZHKAvOTSECHKAiPOD%zSHIE(b*kz+UNY:[!8 CHASHKAa POL.BpOBLACHKO
 iSOROCH,:NOZHKApTOCHKAgDVOETOCHIEpATTACH!P$7OMETx!8.5V!HOMETlKRYZHk$0TON!BR!ZE ;~%.z+UNY PRIZNA
 K (pLEVEL-2b3h:!%lF+eoKRYZHfROG@1CF50uNEUME KRYUKa TIKHYl$ZAK%~iDVA V CHELNUmKLYUCHgZANOZHEK
 iS$1ITSAa S OCHKOMr$vEVODKAa ]IyS$1ITSA )SOROCH,:NOZHKA^g$>LYUSTKAk&=KAf;KAYAjGOLUBCHIK BORZY
 fTIKHYfMRACHNYhSVETLYgTRESVETLYtVRAKHI,:~Z~DlKLYU$>VAYA ~Z~D^g!];KAYAq&H$>LYUSTKAt&EBITSAi$_MILO
 h%zSHKAhPOD%zSHIEkSKAMEYTSA MRACH~DkI$_YArDEMESTVENNY KLYUCHsSKAMEYTSA K^v SVETLAYAn]IoVAYA TI$_YA
 tDVOE$>LNA,:%vSTAYAiS]x]IoK^vz+UNY NEUME SLOZ!yIEa S ;KOYkZAKRYTOEiS K:tMtKRYZHfROGdFITAeKOBYLA
 gZMEYTSAhSTATYAa S ;KOYiK:tMh;KOY I K:tMsK:tM I ;KOYuZAKRYTAYAa S ;KOYuS ROGOMfDVUM,:;KYMI
 q;KOY I POD%zSHIEM^gPOLKULIZMYkSTAT,:]ItRELA ~ZNOTI$_YAoK:tVAYAkPOLUPOVOD.BlVOD.Bj]IoKLYU$>;).Bj]I
 vTI$_,:PUT.BpDVOE$>LNAYAdOK:tVAYAk;).BkAYA K^vpO;)NA,:K^v>f GROM__ GROMO;)__ GROM.BeO;).B(b!];KAYA
 >f GROMOK:tVAYAa ;).B^gMECHIKa ;)NYhKLYU$>VOYd;)NYhNEPOSTOYANNY>f TRYASOGLAS.Bi;).BjSTREL.BwOSOKA
 a S]xTRESVETLAYAlKRYUKOVAYA SVETLAYAs^v S]x]I>f KRYUKOVAYAa ;).BjGROM___qGROMO;)___qGROM.B
 eO;).B(b!];KAYA>f_qGROMOK:tVAYAa ;).B>f_qTRYASKA^gKU%(MAhOBLAKOgDUDAeNEMKAfPAUK*B000tB;5$3LI
 fDASEIAg*tlOXEIA _GlDIPLIl$aEIA _GlDIPLIm)KHISTIiSYRM!wKIj$ZAKL!?KIlYPOKRISISa DIPLIpKREMASTI
 iAPESO _GrEXO _GpTELEIAgK,Z%=AjAPO>9FOSa DIPLIqSYNEVMAhTHITAfOLIG!c.]pGORG!c.]p$3$Yg%zMI$YiV)3Y
 fIS!c.]nK,Z&..]j,?.]sSAXI%=Ai$ZICHONiSTAVROS APODEXIAqOXEIAI .]p$aEIAI .]qAPO&E&..]o&mMAiKLASMA
 gREV&yPIAS&..]pTINAGMAhANAT+mHISMAmSEIS&yYNAG&..]iMETA STAVROUuOY(TIS&..]s&m&yLEMOIfDYOd!5Ad,bERA
 hKR!w%=AjAPESO EXO NEOn_r.]pIMIFTHORAj&ZMIK!c.]r)KAVA &ZMIKONpPELASTONhSI%(TONjKONTEVMAiCHOREV&..]
 rRAPISMAh$ZAKA,x&..]pL!?KI .]uICHADINhNANAePETASMAhKONTEV&.ALLOn&ZMIK!cALLOnSTRAGGIS%=AmG$-THIS%=A
 mIS!cNEOiOLIG!cNEOjXEIA NEOjPETASTIhKOU%(MAiPETASTOKOU%(MApKR!wMOKOU%(MApPELAST!cNEOmK,Z%=A NEO AN
 Ok NEO ANOpY$3LIgAPO>9FOS NEOfI SYNDESMOS NEOyYPORROIhKR!wMOYPORROONpELAF$-h%zMILIhMIKR!cISON
 l$aEIA NEOkPIAS&.NEOjSI%(T!cNEOnO!IONgANTIKENOMAkLYGISMAh$ZAKL!?KI NEOkA,x&.NEOpE!.!c$ZAKA,xMA
 sKYLISMAhANTIKENOKYLISMAp&ZMIK!cNEOmEKSTREPTONkSYNAG&.NEOjR&yCHOREV&.NEOmEPEGERMAiSEIS&.NEO
 kXIR!cKLASMAm&ZMIKOPSI%(TONq$3%(TOLYGISMAp&ZMIKOLYGISMAh$ZAKA,xMAs$3%(TO$ZAKA,xMAt&ZMIKOSYNAGMA
 o$3%(TOSYNAGMApGOR~VoAR~VnE!.!cAR~VuOY(TIS&.NEOn&m%=ISMOS ESOcXOk APL%SjS KAI APOTHESq)KAVASMA
 jENDO,tONjYF$C)KOeANOiSTAVROShKLAS&.ANOkDIPLI .]oKR!w&..]hLLOeNEOlAPO&E&.NEOkLIeDIPLIf!5PLI
 fETRAPLIiKORONIShLEIM&.ENOS CH$-OUmDYO CH$-ONl!5ON CH$-ONm,bARON CH$-ONqIM&oOS CH$-OUwGORG!cNEO AN
 Oh$ZESTIG$h!cARIS!.AiDEXIA=XDIGOR$=a $ZESTIG$h!cARIS!.A )KOeANOmDEXIA=XTRIGOR$=jAR$=fIMIDIAR$=
 kDIAR$=hAGOGI POLI ARGIjARGO!.IfIeME!5AeSIeGORGIbO!.IjPOLI GORGIq!eTYRIA %vTO<MSm%VI %vTO<MS
 rDEY!.O<MSo%VI DEY!.O<MStTRITO<MSj,tIASiETARTO<MSfLEGETO<MSwLEGETO<MSnP)PIO<MSwISAKIA TELOUS ICHI
 %=OSxAPO>9FOI TELOUS ICHI%=OS=XFANERO)uTE)_,tIASl&qOFONIASkDI,tIASs!eTYRIA $aY<MSl%vTO$aY<MS
 p)PIOS TETARTO<MSzB;5GORTHMIK!cN APL%SgDIPL%SuENARXIS KAI _rVOUwIMI,t,YTHORONk_rAR%zI!cDEY!.OU ICH
 OUx~X)BNANAoNAO<MSk~XDImSKLIR!cDIATON!cDIt~XKEcZOcNI )KOeANOq!IAKON CHRO&.DI,tIASi&qOFONIAS=XFH(1
 A SKLIRON CHRO&.VASIS=XFTHORA SKLIRON CHROMA SYNAFIvNENANOnCHROA ZYGOSfK%~ONgSPATHIm_rI YFE)uTETAR
 TIMOR%0wENAR&qIOS ANTI,tIA=XYFE)uTR!?MOR%0sDIE)uTR!?MOR%0kETARTIMOR%0nAPLI DYO ?mr&qO!$MMOS T,bER
 A ?m=XDIE)u*QMMOS EX ?mvTRIGRAMMOS OK$2?m=XYFE)uAPLI DYO ?mr&qO!$MMOS T,bERA ?m=XYFE)u*QMMOS EX ?m
 vTRIGRAMMOS OK$2?m=XGENIKI DIESISgYFESISnDIASTOLI APLI MIKRIeEGALIlDIPLIf&mSEOSqSI(m)u&mSEOS
 a )zIMOUhTRISIMOUhETRASIMOUsARSEOSa )zIMOUhTRISIMOUhETRASIMOU=X*QM&.GGjFTOGGOS OUmSTIGMAgARKTIK
 O )BVOUdGAcDIcKEcZOcNIkK,Z%=A NEO MESOl NEO MESOj,?NEO )KOl NEO )KOpLAS&.)KOlGORG!cNEO )KO*B1.F)AI
 CAL$W,i!q&Uo!]!q&Uo(4!q&Un<h(4!q&Uv<8!q&Uo+j!q&Un!nREPEAT!Uq!pREPEAT!UqEPE)2,HlDAL%hGNOh CAPO
 hSEGNOfCODAeREPE%*FIGURE-!i3rFER%=Aa !un%EATH !8lCAESURAhB$OEbKETh!4]+o!g]+nH!x]+q!+]+oIVE]+p$i]+
 kST&gFRET<?u!+-ST&gFRET<?vG[da ~&tC[dgF[da ~&tDRUM[d>i*B129l+WP!NMEASURE ,Cv%c:6PfF!JlF!J [,
 jNATUR!B[,m=2P [,k,G)k:6PfF!Jr%IM!c$ckUT $ci~&mQU;~ESI&.ALTAeBASSAs+W ,CkWHO!N,Ck%F,Cj,G,Cm+<,C
 l$iTE!YH ,CoTH);-^s,Cs_5$k,Cr!^*<TW!YY-+<,Cz)A+TX *a$Ak%C*a$An(!X *a$ArS.i*a*M<pv*4*a*M$9<pi!n<p
 k!p<pl%N<pk$9!p<pz)A+TMO!c*a*M<pt$o-R)>*a*M%N<pz)A+T(e)u*a$AuVOID *a$An*a*M$Un>6*a$AnCLUS(r*a*M<p
 w)VfWHO!N*ak%F*aj,G*am+<*al$iTE!YH *aoTH);-^s*as_5$k*ar!^*<TW!YY-+<*az)A+T%I$4:8TEMd&ICHGES!Z STEM
 rTREMOLO-!i3t*v!HTREMOLO-!i3s.GAUG&+$z!_qF)P?CqBEG%)BEAMk)~BEAMiBEG%)TIEj)~TIEhBEGIN SLURkEN$5LUR
 iBEG%)PHRASEm)~PHRASEk.G).g_3Oi)=TOg_3ISSIMOn!eCATOa-_3Oq).-_3OpLOUREpARPEGGIATO [,p.GDOITeRIPdF+e
 eSMEARfBENDe!]?0En*U?0ExRIN!KZANDOl+dITOgZbPIANOfMEZZOf!KTEf+-SCENDOjDE+-SCENDOl!$CE *a<;fNO<;tTR
 bURNe&<$;Nn$;N<;fUPh&-$M*V!<b10b1sHAUPTSTIMMElNEBENSTIMMEl)~OF STIMMEnDEG!x<;m.G%NBOWi$9BOWg$.&qIC
 iSNAP PIZZICATOyPED!B!8e$9!8n%FPED!B!8pGLISSANDO [,o!C*vNAILSqDAMPa %ViMAXIMAg$YGAf%EVISgSEMI%EVI
 S <pq&!IMAa $UmSEMI&!I&.<pqFUSA <pk+tA $vFEC,?,CnIM$vFEC,?,Cv%EVIS ,ClSEMI%EVIS ,Cp&!I&.,C
 lSEMI&!I&.,CpTEMP$y$vFECTUM CUM %v!JI!^$vFECTAiIM$vFECTAk$vFEC,?DI&!U&c-1z)A+TTEMP$yIM$vFECTUM CU
 M %v!JI!^$vFECTAiIM$vFECTAa DI&!U&c-!i3z)A+T*yIXf$uGORI>l[dgF[dqS.iBiVIRGAfPODATUShCLIVISgSC!lICUS
 jCLIMACUSi(1CULUSiPOR)NTUSa FLEXUSqSC!lIC$yFLEXUSq(1CUL$yRESUPINUSsPES*WPUNCTISoKIEVAN C[dg,QPIECE
 m(4*ak)NIT!w!0!8pWHO!N*ak%F*aj,G*a STEM !%eUPu+<*a STEM !%eUPtF!J!UqSORIeKORON*B200u[nVOC!B)R$6$W
 *V!<b.x:~c5:~yINSTRUM!Y!B)R$6$W-!i4b5,2b1!i!f$G2!zb7b9c30b2b6$G40b2b3b5$G5:~*u[n)A&iTR&oMEgETRASEM
 Ej(0TASEME.:)A&iLEIMMA*B2E0uMAY!:[9^Je$w[K]N(A*B300vON=O(c?Rs*QM (cHEAVEN(z?RnUM!:?Rl?R(zHEAVEN
 fUMANiqTE)_!$M !K C!YREgF>6%4lMIREDfBARRIERhKEEP!F&^n+3RARIETYlASC!YgOP?.kB(TCH!P)-nDEFECTIVENES
 S %X)z(1&czTE)_!$M (cDI!VGENCEkYOUTHFULN,bmIN+-ASEi(0ETR$6lREACHf+3ACTh]4B&3mWAIT,>FOLLOW!F
 jADVANCEhRELEASEfSIST<<kEASEeJOYd+3EN&ckENDEAV!9jDUTIESgCH!ZEgDECISIVEN,bm.MRESOLU&cpP&3,>,<%0
 g(ySEN,bjKIN.fPhG=Q!FjSTR)4THiPURITYgFULLN,biRESIDENCEjLAW %XMODELmRESPONSEiGO!P$2$XTnENC%S!.S
 kSTOVEf$uATN,bjEN)H&+lPAT&4hRITUALgF(qgVASTNESS %XWAST!Ft&CSTANCYj?-hE&4ITYiUNITYfDI&!ISH&+m+>;C
 mGUARDEDN,bk=Q!PINmMASS,>ACCUMU++mEM!jLISH&+nDOUBTfWATCHfS,X,>INNERfDE$ZTUREiARKEN!FiIMM,>EXHAUS&c
 kSE!V<<i$1PAGEiH!SN,bi%I+D&cjLOSUREhFAILUREhAG!$V$6l%IPLI<<k!c+,!VGEmDIFFICULTIESmLAB!9!F
 jFOS!.!F*B360xC%ST!PROD UNIT %H%Op$wS %H%Oz<HT:;&k$+dIVEzT:;&k!4dFIVE*B400p:4.M%s?bm[M)?
 j!6(o((*B456)wbObPbQbRbS)hYbZo.M[M?bt+R%sA*B49EbCbD*B4A2bG*B4A5bJbK*B4A9bNbObPbQ*B4AEbS)hYbZ
 j!6(oD*B4BBbF*B4BDbH)w*B4C5bPbQbRbS)hYbZoBOL$5[b%s?btFRAK$;&2%e*B507b((*B50DbJbK(%bObPbQ*B516
 bS)hY*B51Ej!6)?p]H%e*B53Bb((*B540bIbJbKbLbM*B546bO*B54AbS)hY*B552j!6)?v.MFRAK$;&2?buS_.?bh.M%s?b
 m[M?bo.M[M?bz:4&qOSP;$%s?brITALIC!O;.IbJ*B6A8w.M%s^^$Wo[M^^$Wq.M[M^^$WvS,(.M%s^^$Wj[M^^.E:4.M%s]V
 p!6]V*B7CEn&Sp%c-:pCK &SyS,(,5.M&Sz:4&qOSP;$&S+=(>k(!(>l$9(>jOV!B(>k.r(>l(i(>l)I&M+2p(!&M+2
 r)I*p?n&M+2w&M[2LEoCUPPEDg>[a !!v(!&MH!FEs)I&M*5r(!&M*5t)I;?+2e[2,xp>[n$9$g>[qH!F!H$gUPq*5.Y:>D
 a &M+2k$g+2lCUPPEDg>[pROSSED(S(!&M*5 CROSSED+=$gB:I%D(>w&MB:I%D*5q$g%2x(!;?%2=a*5?9*p+2tB:I%2;z
 t*p+2kH!FE$5&IAD .J=a$9$gH!F!H.Je&C:>D=aH!F!H$g$9.J+=;?UP S&IAD ?Ex%2 CUPPEDf%>DhHOOKED
 f!FED+=*p?)&M*5;z=a*5.Y;x.Ja.Y:>Dj+2+=$g*p$J!H&MUP=a*p$J!H$gUPw*5.Y;xH!F!H.J=a*5*A!H.JrON;x?E
 nCUPP!H?E+=$g%2 CUPP!H&MUP=a%2 CUPP!H$gUP+=$g%2(hD &MUPcH!FED=a*p+KD =v$gUPn%)$gUPt,g$gUP
 x$g%2.Y;x>[q+KD )-e+=$g*p+KD =v&MUPc*ySSEDr&MUP=a*p$J!H$g>[^P%;*vSa +2e>[g&C:>Da SPLIT(SCLAW %;*v
 S &C:>D+=%;*vS &C;x+2(S.r%;*vS &C:>D^P_LtHEEL _Ly[?%;+2^PHEEL [?%;+2^P[?+2yHEEL [?+2^P[??E(SC$9_L
 a )o(S.r[?)o(SOV!B_LyF!J [?>[a .Jk.A%2(SF!Ja ?)&=M FAC!FSuHEELe.JkHEEL .Jp*p+2e:jnSPLIT &M.Jq*?
 a .Ja +2w+xrCLAWa .Jk.A%2i?Es$J.5*LUEjeC$9OPENfa (I.Jp.Jk(I.A%2n.A%2i(I?Es?EpR*LUE OPENfh%>gOVAL
 a .Jk.A%2i?Es.r)oa ?Eta&^f(I.Jp.Jk(I.A%2n.A%2i%2 SIDE TOUCH!P(>t?)$g(a(S+Kf)I;?(aw(!;?(ay.r;?(a
 x(i;?(ax.r+xm)I;?&g+2e&C:>D(S.r;?(a.Y:>D+=*]!%a RIP+D;zi&GVEDnO;QS %4DtUPj*p?n*]UP(S(!*]UP
 qOV!B*]UPo(i*]UPp)I*][2LEo+2eTOU$>S %2mHUMBr.r*]%2s)I*]&M%2x.r*]&M%2y(i*]&M*p&M*p)-e+=*](>r(!*](>
 t.r*](>s(i*](>s)I;?+xy(!;?+x(S.r;?+xt(ak(i;?+x=a*5 CRO%T+x(S(!&M*5 CRO%T+x+=&g!%o.r&g%N&M*p(_*5(S
 (i&g%N$g*p(>*A+=&gUPc[2LEo+xq(!;jsOV!B;jq(i;jr)I&g*5a.Y:>Dj[2,xw(>f%2p(_&g%2p)I&M;jw(!&M;j
 xUR*LUE &M&g*]ON(S(_&M&g*])-dINc)<(SC$9&M;jv.r&M;jx(i&M&g*])-ex)I$g!%q.r*5m)I$gUPo(!$gUPq)I$g[2LE
 o$9.J(S(_$g%2r)I$g*p+xm+xg;jx(!$g;jyUR*LUE $g&g*]ON(SC$9$g;jw.r$g;jy(i$g&g*])-dINdy(!$g&g*]+2(SCLA
 W $g;j.Y:>Da SIDE(S(_$g;j.Y;x)-dINd(S.r&M>[s)I&M.Jv.r&M.Jw)I&M%2 SIDE *p=*i&C:>Dj+2k&M+2kBO$k+2
 j&MH!FEq!KWARD (>;zi+2s$Je&G*LUEf!0*p;M(SCLAW &M%2.5!0*p;M=a%2.5!0*p)<q%>xC$9&M%2a )ou.r&M*p)oe)Hg
 a&^x(i&M*p)-dINdr)I%2a HEELe:J=*i&C:>Dj+2j:jh?)&M*5m$g(al;jt?n$f*vSr%D$f*vSq?n%1*vSn%;*vS
 s%D%;[2,x(S%(Ta HEELoTOUCH^9n!$SP^9nS!5KE^9oBR,_^9nRUB^9lSUR%j$WSh?UoQUEEZE )H(YmS!IL(Ym*R+W+D
 o!6+W+Dn$B,ZALsF*LK )H(YmS!IL(Ym*R+W+Do!6+W+Dn$B,ZALqSQUEEZE F*LK )e!F*7.r$9%N)HfS!ILkSEQU,ZAL
 n!% S$B,ZALp$9%N)e!P)HfS!IL*7H!FE SIDE TO SIDE]=S>B[v+3ACTy.L[v+3ACTz!>WRIT!P)g-;^(Y;z?Oq>Zr%c;z
 i~g>B)tf;k?9)gr~g>BBEN$5!ILf%Kg)Hk;r,SfROT$6oHECK,Sl,D,SjZIGZAG,SmPEAKS,S_7:ZROT$6-;^^j
 v<u^j_7;^&KK,>ARM)1IRAL<4g;k*7&fAWAY?OmTOW!SS?Op?)AWAY?OmTOW!SS?O*7<u(Y;z?Oq>Zr%c;zi~g;w)tf;k?9)g
 r>Zk)e!P)gi>Z;wBENDe;r,SlHECKf,D,SjZIGZAG,SmPEAKS,S_7.LROT$6-<u^jw;^^j_7<u&KK!F>B&G!0+r?Op)F-%4?O
 t.Z-,G%4&^f%K>BHUMP,Sk.e,Sf!6%cr<X&G!0%c,Sm;k,Sx&G!0THEN;zoD )t&^f%K?s;^<4g)eE*7;^&KK,>&G!0]L
 yHUMP ]Lx.e ]Lx<X]L?s;^,i]L?s:Z!]]L?s:Z)e!P]L>B&G!0[*tHUMP [*s.e [*s<X[*?s;^,i[*u!][*
 u)e!P[*>B<X&fP)3,S;w&G!0]&&^f)H;wHUMP !yT(tEIL!F!O%cm*R%cm!6;km*R;k;w.e ]&&^(Ym)H(Ym!6%c
 m*R%c;w<X]&&^f)H?s<u,i]&w!]]&w)e!P]&;w&G!0[$&^f)H;wHUMP [$!O%cm*R%cm;k!O;km*R;k;w.e [$&^(Ym)H(Y
 m!6%cm*R%c;w<X[$&^f)H?s<u,i[$u!][$u)e!P[$;w&GVE?Oh%IB!3DoHUMP&^k.e&^k=F SNAKEe!ILf)H?s<u^j*7<u&KK
 !P=8L>BARM(h&^(Ym%K(Yn!6%cm($%c;wARM C!r!N!yT!PW%V&^(Ym%K(Yn)H(Ym!6%cm($%cn*R%c>BWRIST (!FRONT<4;w
 WRIST (!!yT!PW%V<4>B[v%4S<4;w[v%4S !yT!PW%V<4%MDYNAM!X&j&^f)HpFASTeS!!e$wSEfRELAXEDhSIMULTANEOUS
 a )e!FyE+.OTH!A$cq!$DUALp$Aa RIMd)g-;^;zi$$To<u;zt:Z&GVEp.L&GVEr(hu:P:!%l]sNO)L!KWARD $$T!Fp$9%X!%
 a $$T!F%M:EB.1S?9UPc^U!%wDREAMY :EB.1S +?!%m%NNEUTRALm$9NEUTRALk+?UP%M!KE*M^U+3ACThWR,XLEDr:ES )o
 eSQUEEZEDi(ySEDi BL,X(Yg+W+DpS %F)ojWIDE )oj)F CLOSEDlWIDEN!P)gt W,XfLA)+S [,eFLUTTER!FrGAZE-;^;z
 a %cg)e!F%M:EGAZE-<u;za %cg)e!F%M:EGAZE-:Z&GVEDq.L&GVEDr:ZC!rL!Fz!>WRIT(tHEEKS PUFFEDg^USUCKED
 n$w)L$>EKS H!Ge*5g!!qEARSeNO)L^U+3ACThWR,X,xhIGG,xmAIR BLOW!P)-lSUCK!PINkBLOW!OROT$6SuSUCK!OROT$6S
 y%EATH INHALEgEXHALEnM&>+>^U:jh+3ACToSMILE^-)okF.1N^-)ok)o(hg:jhWR,XLEDiOVAL^-YAWNj)NT+K^-YAWN
 tKISSa :jhWR,XLEDn$wSEa :jhSUCKEDs+eS >;TOGE;Qs $0%DUP$vq$)%D!!ERuM&>;rShWR,X,x<4v?0E!hICK!P=vFAR
 q*LK!P+eSm;%?)+eSmTOUCH!PIN:J;C%M?0E IN:JM&>RELAXEDuMOVES AGAINST $>EKt*?!hICK!P)-mIN:J;C%MTEETH
 a )gi!c?0Ea )gp+eSa )gqBITE +eSp)g-:ZJAWn.LJAWxNECKe>neEXCITE&+kSHOULD!AHIP)1!3f?.Sw;^)$OULD!AHI
 P MOVE%M<u)$OULD!AHIP MOVEz!>WRIT!F)$OULD!A$$T!P*~WAISTz!>WRIT!P(1SO-;^;z!hRETCHq&GV!HBEND
 v.LTWIST!F%M$)BODY $$T!P*~HIP *9TS%MLIMB(u$4$6lLENGTH=Sn*vgLOC$6-;^.^p<u.^r HE!,gWIDTHfDEPTH
 f*MNECKj(1SOfLIMBS DIGITSv;;()j[PjC(9f*s@1DA9BlFILL (OER-:l@1DAA1pROT$z(OER-:l!<b1$I*BF00!mFENG =-
 !5LLx;<$5[bG=l%,G!m&HKx*_)]!jT!mLEZ$K)(y%,.V!jTs&H)4m%,*+&VLEG !T=^&s(_!T)(!Q+V~s*L.0=^ES$K!]!q:o
 ,J!m%,&s,J!Q+V&<.Q!E,J!Q $b!hRET$>D .z,Ju!IL %s%,K!m)]%(H$JpDEZH =-+B!m)]!jT !T+B!m)4!E+B
 v%,*++B!m*+%(H(_!T+B!mTESH =-+B!mEZ$K+BvDEZH =-=^I >O)(,d)(vTESH =-=^.z)(vS!E,J@1E000*uG)POLIT!X!D
 AZ~_@1E008gEML~-U@1E01Be~[@1E023dUc!6YUS@1E026j~^ITA,]1.FNYIAKENG PUACHUE H&qG !D%-<gNTAdT%!c&rXA
 cNKAd,s&N,.ZAcN,sTSAe(.(,NYAcRAd(;NTXAeTXAd*(&YQAc%7NQAd)BXYAdNPAdDLAdNPLAeHAHdMLAdPLAdGAcRRA
 dA$E)Q*S)XW,]130i)k-BbMbJbVbSbGbDg%i(c=JgTH!FfLOC$6iANI!IgIN!VTEBRATEqXW XWjY%<B!NLENGTHENER,]140
 t&S,]14EkLOG=ONYAJn,gCA,]290zTO$2!D)B)x:b<r%-NAbGAd,.%zd%7)ZJ%!c&Y&NIb^+IjIUc^+IUkUbEb^+EjEOc^+EO
 kObAEc^+AEkAi%i<D)k,]2C0vWANCHO !DAAbb)x,s(,GAc%7&xd&N&r)BT!k*(S!k,uZAc)Z(;(.ObAUc&Y%-$_d)DEbIb&5U
 bLLHAeTSAcRAd.XdA!ZdNGd!FdONcENcAANd&[UENdYIHk&nTUPaNIfKOIaNIk&S,]2FFkNGUN!U,]7E0q]<<7HHY:_,]7E8
 eGURAGE HHWAlHH?:,]7EDeGURAGE MWIbEE,]7F0eQ?:dBWIbEEeK?:dG?:dFWIbEEePWIbEE,]8.F$hDE KIKAKUI<7M00
 1 KIe2 KAe3 KUf65 KEEg95 KEf76 KOOg48 KOg179 KUAh004 WIe5 WAe6 WUg126 WEEg18 WEe4 :Gh045 WO
 g194 WUIg43 WEIh061 WVIg49 WVAh139 WVEh007 &!f8 (mf9 MUNg59 $hg94 &qh154 MUANh89 MUENi010 BIe1 BA
 e2 BUg150 BEEh097 BEg103 BOOg38 BOg013 Id4 Ad5 Uf163 EEf00 Ee65 OOf47 Oe37 EIe1 (25 +H95 ANf78 EN
 g019)af20 SAe1 SUg162 SEEg16%hf36 SOOh079 SOg196 SIAh025 LIe6 LAe7 LUf84 LEEg73 LEf54 LOOh153 LO
 f10 &VLEl016 DIe7 DAe8 DUf89 DEEh180 DOOf1 DOg022 TIe3 TAe4 TUf91 TEEg55 TEg104 TOOh069 TOf28 JI
 e9 JAf30 JUg157 %ag13 JEf60 JOOh063 JOg175 &VJOl031 YIe2 YAe3 YUg109 YEEh080 YEg141 YOOg21 YO
 g034 FIe5 FAe6 FUf78 FEEf5 FEg133 FOOh088 FOg197 FUAg01 FANh037 N+H8 NANf9 **h117 NENg69 NONg76 HI
 g041 HAg186 HUg040 HEEg96 HEf42 HOOh140 HOg083 HEEIi128 HOOUi053 HINh130 HANh087 HUNg52 HEN
 h193 HONh046 HUANh90 NGGIh43 NGGAh82 >5i115 .)EEi46 NGGEh56 .)OOi20 .)Oh59 NGGAAi27 >5Aj086 &VNGGE
 n106 &V.)OOn83 &V.)Om55 GIf11 GAf68 GUf90 GEEg66 GUEIg7 GUANh84 NGENi057 NGONi177 NGUANj068 PI
 f99 PAf50 PUf81 PEEg51 PEg102 POOh066 POg145 MBIh062 MBAh122 MBUh047 MBEEi188 MBEEi072 MBEh172 MBO
 Og4 MBOg87 MBUUh61 &VMBEl05 &VMBOOm42 &VMBOl32 KPIh092 KPAg74 KPUg44 KPEEi108 KPEg12 KPOOh58 KPO
 g24 GBIh056 GBAh148 GBUh093 GBEEi107 GBEh071 GBOOg0 GBOh171 RAf23 NDIf9 NDAf5 NDUg91 NDEEh19 NDE
 h067 NDOOg4 NDOh152 NJAg92 NJUg49 N%ah34 NJOOh82 VIe5 VAf51 VUf73 VEEh085 VEg144 VOOh077 VO
 g164 NYINi058 NYANi170 NYUNi098 NYENh60 NYON,]8C7s%H%Ok.G(E(ASdNSe%WSi$*Si$C$*Sn<xSr[fS,]9.FAD&a!d
 ALIFeDAALIfLAAMeMIIMe)xSINNYIIYHEk*fB*1&YEb*(IbObD)OY*1)c;h>A%7UbJIIMeCHId)DQAAFeGAc&[TUcN)O(;$_
 dGBEdZALdKPOd$:,wALIFeDAALIfLAAMeMIIMe)xSINNYIIYHEk*fB*1&YEb*(IbObD)OY*1)c;h>A%7UbJIIMeCHId)DQAAF
 eGAc&[TUcN)O(;$_dGBEdZALdKPOd$:qALIF LENGTHENERp;dLENGTHENERqGE&!&Wp&$ZAf^Z(OERsGE&!:h^Z(OER
 zAD=yNUKTAeAS<.&W,]950r&S,]95Ek=5;Aq,o,]C71z;~)aYAQ (E%Oe[~]__~$*pLAKHaANnLAKH !8j(EKARORaAN
 h&IFIX!H%OuPLACEHOL&El^>SxRUPEE !8+Z,9$pc$C$*z;~)aYAQ ,9LAKH !8@1ED01zOTT<~)aYAQ (E%Oe[~]__~$*
 wMARRATANi,9(E]Sf!+dIVEe$i%Ge$wd%;%Wm*X%Wl$f$*l$C$*zOTT<~)aYAQ ;y)Fe$iTH*C00!1:4$<e~8*C05d~9YEH
 d>A~<+H;.BEHdNO,YFEHd+X*C21l=5BEHd%aM*C24eHEH*C27cAH*C29dYEHd>A&ad^]+X*C34dSHE^4$_H*C39eDAD*C3B
 dGHAIN*C42nTAI=s%aM*C47eHAH*C49dYEH*C4Bd&a*C4DdNO,YSEENe)[*C51dSADd+X*C54dSHEEN*C57f$_H*C59
 eDAD*C5BdGHAIN*C5Df;.NOON*C5Fe+X*C61sSTRET$>D BEHd%aM*C64eHEH*C67cAHdTAHdYEHdKAF*C6Cd^]+X*C74
 dSHE^4$_H*C79eDADdZAHdGHA+H;.BEH*C7EdFEH*C80v.e!H$<e~8dHEHd~9YEH*C8Bd~<IN*CA1m%c-:pCK ~8*CA5
 d~9YEH*CABd~<IN*CF0t]h)T*gTATWEEL!1:4]h*gDAL"

end TextProtocol.Text.CharacterName
